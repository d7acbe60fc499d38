import JobDesk.Bytes

/-!
# Backward bits — rows of bits that are read from their end

A row is written from its first byte on, and a bit that is set marks its end.  What was written last
is read first, and the number that several bits stand for is the one that was written.
-/

namespace JobDesk.Compression

/-- A row of bits: its first byte, and the number of bits that have not been read. -/
structure BackBits where
  bytes : Bytes
  first : Nat
  left : Nat
  deriving Inhabited

namespace BackBits

def open? (bytes : Bytes) (first size : Nat) : Option BackBits :=
  let last := (bytes.getD (first + size - 1) 0).toNat
  if size = 0 ∨ last = 0 then none else some ⟨bytes, first, 8 * (size - 1) + last.log2⟩

def field (bits : BackBits) (start count : Nat) : Nat :=
  let word := Bytes.toWord ((List.range 5).map fun i =>
    bits.bytes.getD (bits.first + start / 8 + i) 0)
  word / (1 <<< (start % 8)) % (1 <<< count)

def ahead (bits : BackBits) (count : Nat) : Nat :=
  if count ≤ bits.left then bits.field (bits.left - count) count
  else bits.field 0 bits.left * (1 <<< (count - bits.left))

def skip (bits : BackBits) (count : Nat) : BackBits := { bits with left := bits.left - count }

def take? (bits : BackBits) (count : Nat) : Option (Nat × BackBits) :=
  if bits.left < count then none else some (bits.ahead count, bits.skip count)

end BackBits

end JobDesk.Compression
