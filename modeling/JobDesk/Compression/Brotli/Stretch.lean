import JobDesk.Compression.Brotli.Code
import JobDesk.Compression.Deflate

/-!
# Stretches — symbols of one kind in stretches of several types

Symbols of one kind follow one another in stretches.  A stretch has a type, by which the codes of
its symbols are chosen, and a number of symbols.
-/

namespace JobDesk.Compression.Brotli

def readCount (bits : Bits) : Except Stop (Nat × Bits) := do
  let (isMany, bits) ← bits.take 1
  if isMany = 0 then return (1, bits)
  let (width, bits) ← bits.take 3
  let (added, bits) ← bits.take width
  return ((1 <<< width) + added + 1, bits)

structure Stretches where
  /-- The number of types. -/
  types : Nat
  typeCode : Code
  sizeCode : Code
  /-- The type of this stretch, and that of the one before it. -/
  type : Nat
  before : Nat
  /-- How many symbols of this stretch are left. -/
  left : Nat
  deriving Inhabited

namespace Stretches

/-- The least size of each symbol for sizes, and the number of bits that are added to it. -/
def sizes : Array (Nat × Nat) := #[
  (1, 2), (5, 2), (9, 2), (13, 2), (17, 3), (25, 3), (33, 3), (41, 3), (49, 4), (65, 4), (81, 4),
  (97, 4), (113, 5), (145, 5), (177, 5), (209, 5), (241, 6), (305, 6), (369, 7), (497, 8), (753, 9),
  (1265, 10), (2289, 11), (4337, 12), (8433, 13), (16625, 24)]

def readSize (code : Code) (bits : Bits) : Except Stop (Nat × Bits) := do
  let (symbol, bits) ← code.read bits
  Deflate.readNumber sizes symbol bits

def readFirst (types : Nat) (bits : Bits) : Except Stop (Stretches × Bits) := do
  let (typeCode, bits) ← Code.readStatement (types + 2) bits
  let (sizeCode, bits) ← Code.readStatement sizes.size bits
  let (size, bits) ← readSize sizeCode bits
  return (⟨types, typeCode, sizeCode, 0, 1, size⟩, bits)

def read (bits : Bits) : Except Stop (Stretches × Bits) := do
  let (types, bits) ← readCount bits
  if types = 1 then return (⟨1, .single 0, .single 0, 0, 1, 0⟩, bits) else readFirst types bits

/-- The type that a symbol stands for: the one before this one, the one that follows this one in
order, or any one. -/
def typeOf (s : Stretches) (symbol : Nat) : Nat :=
  let type := if symbol = 0 then s.before else if symbol = 1 then s.type + 1 else symbol - 2
  if s.types ≤ type then type - s.types else type

def next (s : Stretches) (bits : Bits) : Except Stop (Stretches × Bits) := do
  if s.types = 1 then return (s, bits)
  if 0 < s.left then return ({ s with left := s.left - 1 }, bits)
  let (symbol, bits) ← s.typeCode.read bits
  let (size, bits) ← readSize s.sizeCode bits
  return ({ s with type := s.typeOf symbol, before := s.type, left := size - 1 }, bits)

end Stretches

end JobDesk.Compression.Brotli
