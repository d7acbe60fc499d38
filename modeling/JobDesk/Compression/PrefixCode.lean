import JobDesk.Compression.Bits

/-!
# Prefix codes — symbols written with differing numbers of bits

A code is fixed by the lengths of its code words: shorter words come before longer ones, and words
of one length stand in the order of their symbols.  Unless it has a single word, a code must use up
all words.
-/

namespace JobDesk.Compression

/-- A code: how many words each length has, and the symbols in the order of their words. -/
structure PrefixCode where
  counts : Array Nat
  symbols : Array Nat
  deriving Inhabited

namespace PrefixCode

def longest : Nat := 15

def symbolsOf (lengths : Array Nat) (length : Nat) : Array Nat :=
  (Array.range lengths.size).filter fun symbol => lengths.getD symbol 0 == length

/-- The part of all words of the greatest length that begin with a word of a code. -/
def coverage (counts : Array Nat) : Nat :=
  (List.range (longest + 1)).foldl
    (fun covered length => covered + counts.getD length 0 * (1 <<< (longest - length))) 0

/-- The code whose words have given lengths, if there is one; a symbol of length zero has none. -/
def ofLengths? (lengths : Array Nat) : Option PrefixCode :=
  let groups := (Array.range (longest + 1)).map fun length =>
    if length = 0 then #[] else symbolsOf lengths length
  let code : PrefixCode := ⟨groups.map Array.size, groups.foldl (· ++ ·) #[]⟩
  if code.symbols.size ≤ 1 ∨ coverage code.counts = 1 <<< longest then some code else none

/-- The number and the length of the word that some bits begin with.  `word` holds the `length` bits
before them, `first` the first word of that length, and `index` its number. -/
def find? (counts : Array Nat) (bits : Nat) :
    (rounds length word first index : Nat) → Option (Nat × Nat)
  | 0, _, _, _, _ => none
  | rounds + 1, length, word, first, index =>
    let length := length + 1
    let word := 2 * word + bits % 2
    let first := 2 * first
    let count := counts.getD length 0
    if word < first + count then some (index + (word - first), length)
    else find? counts (bits / 2) rounds length word (first + count) (index + count)

/-- The next symbol.  Where too few bits are left for a word, the end has come too early. -/
def read (code : PrefixCode) (bits : Bits) : Except Stop (Nat × Bits) :=
  match find? code.counts bits.ahead longest 0 0 0 0 with
  | some (number, length) =>
    if bits.left < length then .error .ended
    else .ok (code.symbols.getD number 0, bits.skip length)
  | none => .error (if bits.left < longest then .ended else .malformed)

end PrefixCode

end JobDesk.Compression
