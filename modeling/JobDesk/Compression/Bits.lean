import JobDesk.Bytes

/-!
# Bits — bytes read bit by bit

The bits of a byte are read lowest first.  A field of several bits is a number whose lowest bit is
read first.
-/

namespace JobDesk.Compression

inductive Stop where
  /-- The bytes end too early. -/
  | ended
  /-- What stands there must not stand there. -/
  | malformed
  deriving DecidableEq, Inhabited

structure Bits where
  bytes : Bytes
  position : Nat
  deriving Inhabited

namespace Bits

def left (bits : Bits) : Nat := 8 * bits.bytes.size - bits.position

/-- The next twenty-five bits or more as a number; bits behind the end count as zero. -/
def ahead (bits : Bits) : Nat :=
  let byte (i : Nat) : Nat := (bits.bytes.getD (bits.position / 8 + i) 0).toNat
  (byte 0 + 256 * byte 1 + 65536 * byte 2 + 16777216 * byte 3) / (1 <<< (bits.position % 8))

def skip (bits : Bits) (count : Nat) : Bits := { bits with position := bits.position + count }

def take (bits : Bits) (count : Nat) : Except Stop (Nat × Bits) :=
  if bits.left < count then .error .ended
  else .ok (bits.ahead % (1 <<< count), bits.skip count)

def bytesRead (bits : Bits) : Nat := (bits.position + 7) / 8

def align (bits : Bits) : Bits := { bits with position := 8 * bits.bytesRead }

end Bits

end JobDesk.Compression
