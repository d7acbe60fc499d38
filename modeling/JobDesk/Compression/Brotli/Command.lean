import JobDesk.Compression.Brotli.Code
import JobDesk.Compression.Deflate

/-!
# Commands — how many bytes follow, and how many are repeated

A command writes a number of bytes that follow, and then again what has stood at some distance
before.  The last four distances are kept, so that they and their neighbours can be named again.
-/

namespace JobDesk.Compression.Brotli

/-! ## 1. Numbers of commands -/

/-- A command: how many bytes it writes, how many it repeats, and whether at the latest distance. -/
structure Command where
  literals : Nat
  length : Nat
  isLatest : Bool
  deriving DecidableEq, Inhabited

def commands : Nat := 704

/-- The least number of bytes of each symbol for them, and the number of bits that are added. -/
def literalNumbers : Array (Nat × Nat) :=
  (Array.range 6).map (·, 0) ++ #[
    (6, 1), (8, 1), (10, 2), (14, 2), (18, 3), (26, 3), (34, 4), (50, 4), (66, 5), (98, 5),
    (130, 6), (194, 7), (322, 8), (578, 9), (1090, 10), (2114, 12), (6210, 14), (22594, 24)]

/-- The least length of each symbol for lengths, and the number of bits that are added to it. -/
def lengthNumbers : Array (Nat × Nat) :=
  (Array.range 8).map (· + 2, 0) ++ #[
    (10, 1), (12, 1), (14, 2), (18, 2), (22, 3), (30, 3), (38, 4), (54, 4), (70, 5), (102, 5),
    (134, 6), (198, 7), (326, 8), (582, 9), (1094, 10), (2118, 24)]

def cells : Array (Nat × Nat) :=
  #[(0, 0), (0, 8), (0, 0), (0, 8), (8, 0), (8, 8), (0, 16), (16, 0), (8, 16), (16, 8), (16, 16)]

def Command.read (code : Code) (bits : Bits) : Except Stop (Command × Bits) := do
  let (symbol, bits) ← code.read bits
  let (literals, length) := cells.getD (symbol / 64) (0, 0)
  let (literals, bits) ← Deflate.readNumber literalNumbers (literals + symbol / 8 % 8) bits
  let (length, bits) ← Deflate.readNumber lengthNumbers (length + symbol % 8) bits
  return (⟨literals, length, symbol < 128⟩, bits)

/-! ## 2. Distances -/

def firstDistances : List Nat := [4, 11, 15, 16]

def offsets : List Int := [-1, 1, -2, 2, -3, 3]

/-- The distance that a number below sixteen names by the last ones: one of them, or a neighbour of
one of the latest two. -/
def named? (recent : List Nat) (symbol : Nat) : Option Nat :=
  if symbol < 4 then recent[symbol]?
  else
    let near := recent.getD ((symbol - 4) / 6) 0
    let distance := Int.ofNat near + offsets.getD ((symbol - 4) % 6) 0
    if 0 < distance then some distance.toNat else none

/-- How distances are written: the number of those that have a symbol of their own, and the number
of their lowest bits that symbols hold. -/
structure DistanceForm where
  direct : Nat
  low : Nat
  deriving DecidableEq, Inhabited

namespace DistanceForm

def size (form : DistanceForm) : Nat := 16 + form.direct + 48 * (1 <<< form.low)

def read (bits : Bits) : Except Stop (DistanceForm × Bits) := do
  let (low, bits) ← bits.take 2
  let (direct, bits) ← bits.take 4
  return (⟨direct * (1 <<< low), low⟩, bits)

def readDistance (form : DistanceForm) (recent : List Nat) (symbol : Nat) (bits : Bits) :
    Except Stop (Nat × Bits) := do
  if symbol < 16 then
    match named? recent symbol with
    | some distance => return (distance, bits)
    | none => throw .malformed
  let number := symbol - 16
  if number < form.direct then return (number + 1, bits)
  let number := number - form.direct
  let (low, high) := (number % (1 <<< form.low), number / (1 <<< form.low))
  let width := high / 2 + 1
  let (added, bits) ← bits.take width
  let least := (2 + high % 2) * (1 <<< width) - 4
  return ((least + added) * (1 <<< form.low) + low + form.direct + 1, bits)

end DistanceForm

end JobDesk.Compression.Brotli
