/-!
# Bytes — buffers and little-endian words

A buffer is an array of bytes.  Numbers stand in it lowest byte first; a negative number is written
modulo a power of 256.  Text stands in it as UTF-8.  The lemmas say that a word that was written is
read back unchanged.
-/

namespace JobDesk

abbrev Bytes := Array UInt8

namespace Bytes

/-! ## 1. Little-endian words -/

def ofWord : Nat → Nat → List UInt8
  | 0, _ => []
  | count + 1, n => UInt8.ofNat n :: ofWord count (n / 256)

def toWord : List UInt8 → Nat
  | [] => 0
  | b :: rest => b.toNat + 256 * toWord rest

@[simp] theorem length_ofWord (count n : Nat) : (ofWord count n).length = count := by
  induction count generalizing n <;> simp [ofWord, *]

def wordCount : (count : Nat) → Nat
  | 0 => 1
  | count + 1 => 256 * wordCount count

theorem wordCount_pos (count : Nat) : 0 < wordCount count := by
  induction count with
  | zero => decide
  | succ count ih => rw [wordCount]; omega

theorem toWord_ofWord (count n : Nat) : toWord (ofWord count n) = n % wordCount count := by
  induction count generalizing n with
  | zero => simp [ofWord, toWord, wordCount, Nat.mod_one]
  | succ count ih =>
    rw [ofWord, toWord, ih, wordCount, Nat.mod_mul]
    simp

/-- The word of `count` bytes at `address`; zero when it does not lie inside the buffer. -/
def wordAt (bytes : Bytes) (address count : Nat) : Nat :=
  if address + count ≤ bytes.size then toWord (bytes.extract address (address + count)).toList
  else 0

/-! ## 2. Signed numbers -/

def wordOfInt (count : Nat) (n : Int) : Nat :=
  (n % (wordCount count : Int)).toNat

def intOfWord (count word : Nat) : Int :=
  if 2 * word < wordCount count then word else (word : Int) - (wordCount count : Int)

theorem intOfWord_wordOfInt {count : Nat} {n : Int}
    (low : -(wordCount count : Int) ≤ 2 * n) (high : 2 * n < (wordCount count : Int)) :
    intOfWord count (wordOfInt count n) = n := by
  have positive := wordCount_pos count
  unfold intOfWord wordOfInt
  by_cases sign : 0 ≤ n
  · have small : n % (wordCount count : Int) = n := Int.emod_eq_of_lt sign (by omega)
    rw [small]
    split <;> omega
  · have shifted : n % (wordCount count : Int) = n + (wordCount count : Int) := by
      rw [← Int.add_emod_right]
      exact Int.emod_eq_of_lt (by omega) (by omega)
    rw [shifted]
    split <;> omega

/-! ## 3. Text -/

def ofText (s : String) : Bytes :=
  s.toByteArray.data

def toText? (bytes : Bytes) : Option String :=
  String.fromUTF8? ⟨bytes⟩

theorem toText?_ofText (s : String) : toText? (ofText s) = some s := by
  simp [toText?, ofText, String.fromUTF8?, s.isValidUTF8, String.fromUTF8]

end Bytes

end JobDesk
