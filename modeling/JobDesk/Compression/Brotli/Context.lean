import JobDesk.Compression.Brotli.Stretch

/-!
# Contexts — the code of a symbol by what stands before it

The code of a byte is chosen by the two bytes before it, and the code of a distance by the length
that it belongs to.  A map gives the number of a code to each type and each context.
-/

namespace JobDesk.Compression.Brotli

/-! ## 1. Contexts of bytes -/

inductive ContextMode where
  | lowBits
  | highBits
  | text
  | magnitude
  deriving DecidableEq, Inhabited

def ContextMode.ofNumber (n : Nat) : ContextMode :=
  if n = 0 then lowBits else if n = 1 then highBits else if n = 2 then text else magnitude

def characterClass (c : Char) : Nat :=
  if c = '\t' ∨ c = '\n' ∨ c = '\r' then 1
  else if c < ' ' ∨ c = '\x7f' then 0
  else if c = ' ' then 2
  else if c = '"' ∨ c = '\'' then 4
  else if c = '%' then 5
  else if ['(', '<', '[', '\x7b'].contains c then 6
  else if [')', '>', ']', '\x7d'].contains c then 7
  else if [',', ':', ';'].contains c then 8
  else if c = '.' then 9
  else if c = '=' then 10
  else if c.isDigit then 11
  else if ['A', 'E', 'I', 'O', 'U'].contains c then 12
  else if c.isUpper then 13
  else if ['a', 'e', 'i', 'o', 'u'].contains c then 14
  else if c.isLower then 15
  else 3

def lastClass (b : UInt8) : Nat :=
  if b < 0x80 then 4 * characterClass (Char.ofNat b.toNat)
  else b.toNat % 2 + if b < 0xc0 then 0 else 2

def earlierClass (b : UInt8) : Nat :=
  let c := Char.ofNat b.toNat
  if 0xe0 ≤ b ∨ c.isDigit ∨ c.isUpper then 2
  else if 0x7f ≤ b ∨ b < 0x20 then 0
  else if c.isLower then 3
  else 1

def magnitude (b : UInt8) : Nat :=
  [1, 16, 64, 128, 192, 240, 255].countP (· ≤ b.toNat)

/-- The context of a byte by the bytes before it, of which `last` stands directly before it. -/
def ContextMode.context (mode : ContextMode) (last earlier : UInt8) : Nat :=
  match mode with
  | lowBits => last.toNat % 64
  | highBits => last.toNat / 4
  | text => lastClass last ||| earlierClass earlier
  | magnitude => 8 * Brotli.magnitude last + Brotli.magnitude earlier

def distanceContext (length : Nat) : Nat := min (length - 2) 3

/-! ## 2. Maps -/

structure ContextMap where
  codes : Nat
  numbers : Array Nat
  deriving Inhabited

/-- As many numbers as are wanted; a small symbol stands for a run of zeros.  Each round adds one or
more. -/
def readNumbers (code : Code) (longestRun wanted : Nat) :
    (rounds : Nat) → (made : Array Nat) → Bits → Except Stop (Array Nat × Bits)
  | 0, made, bits => if made.size = wanted then .ok (made, bits) else .error .malformed
  | rounds + 1, made, bits =>
    if wanted ≤ made.size then readNumbers code longestRun wanted 0 made bits
    else do
      let (symbol, bits) ← code.read bits
      if symbol = 0 ∨ longestRun < symbol then
        readNumbers code longestRun wanted rounds (made.push (symbol - longestRun)) bits
      else
        let (added, bits) ← bits.take symbol
        let zeros := Array.replicate ((1 <<< symbol) + added) 0
        readNumbers code longestRun wanted rounds (made ++ zeros) bits

/-- The number at a place of an order, after which it comes first in the order. -/
def takeToFront (made : List Nat × Array Nat) (place : Nat) : List Nat × Array Nat :=
  let number := made.1.getD place 0
  (number :: made.1.eraseIdx place, made.2.push number)

def ContextMap.read (size : Nat) (bits : Bits) : Except Stop (ContextMap × Bits) := do
  let (codes, bits) ← readCount bits
  if codes = 1 then return (⟨1, Array.replicate size 0⟩, bits)
  let (hasRuns, bits) ← bits.take 1
  let (longest, bits) ← bits.take (4 * hasRuns)
  let longestRun := longest + hasRuns
  let (code, bits) ← Code.readStatement (codes + longestRun) bits
  let (numbers, bits) ← readNumbers code longestRun size size #[] bits
  let (isOrdered, bits) ← bits.take 1
  if isOrdered = 0 then return (⟨codes, numbers⟩, bits)
  return (⟨codes, (numbers.foldl takeToFront (List.range 256, #[])).2⟩, bits)

end JobDesk.Compression.Brotli
