import JobDesk.Compression.Bits
import JobDesk.Compression.Zstandard.BackBits

/-!
# State codes — symbols that states stand for

A reader is in one of a number of states.  Each state stands for a symbol and says how many bits
give the next state.  A symbol has as many states as its count says, so that frequent symbols take
few bits; a symbol that is rarer than one state has a state at the end of the table.
-/

namespace JobDesk.Compression

/-- A state: its symbol, and the next state as a least one and a number of bits to add. -/
structure CodeState where
  symbol : Nat
  least : Nat
  bits : Nat
  deriving DecidableEq, Inhabited

structure StateCode where
  accuracy : Nat
  states : Array CodeState
  deriving DecidableEq, Inhabited

namespace StateCode

/-! ## 1. Counts -/

/-- How many states a symbol has; `none` for one that is rarer than that. -/
abbrev Count := Option Nat

def room : Count → Nat
  | some n => n
  | none => 1

/-- Symbols without states behind one without: a number of up to three, and again behind three. -/
def readZeros : (rounds : Nat) → Array Count → Bits → Option (Array Count × Bits)
  | 0, _, _ => none
  | rounds + 1, made, bits =>
    match bits.take 2 with
    | .error _ => none
    | .ok (count, bits) =>
      let made := made ++ Array.replicate count (some 0)
      if count = 3 then readZeros rounds made bits else some (made, bits)

/-- One count, when so many states are left.  It is written with few bits if it is small. -/
def readCount (left : Nat) (bits : Bits) : Option (Count × Bits) :=
  let width := (left + 1).log2 + 1
  let half := 1 <<< (width - 1)
  let spare := (1 <<< width) - 1 - (left + 1)
  let value := bits.ahead % (1 <<< width)
  let (value, taken) :=
    if value % half < spare then (value % half, width - 1)
    else if half ≤ value then (value - spare, width)
    else (value, width)
  if bits.left < taken then none
  else some (if value = 0 then none else some (value - 1), bits.skip taken)

def readCounts (limit : Nat) :
    (rounds left : Nat) → Array Count → Bits → Option (Array Count × Bits)
  | 0, _, _, _ => none
  | rounds + 1, left, made, bits =>
    if left = 0 then some (made, bits)
    else if limit < made.size then none
    else
      match readCount left bits with
      | none => none
      | some (count, bits) =>
        let made := made.push count
        if count = some 0 then
          match readZeros (limit + 1) made bits with
          | some (made, bits) => readCounts limit rounds left made bits
          | none => none
        else readCounts limit rounds (left - room count) made bits

/-! ## 2. Tables -/

/-- The next place in a table of `size` places for a symbol that is not rare; rare ones have the
places from `high` on. -/
def nextPlace (size high : Nat) : (rounds place : Nat) → Nat
  | 0, place => place
  | rounds + 1, place =>
    let place := (place + size / 2 + size / 8 + 3) % size
    if high ≤ place then nextPlace size high rounds place else place

def spread (size high : Nat) : List Nat → (place : Nat) → Array Nat → Array Nat
  | [], _, made => made
  | symbol :: rest, place, made =>
    spread size high rest (nextPlace size high size place) (made.set! place symbol)

/-- The states of the symbols in a table; `next` numbers the states of each symbol from its count
on. -/
def number (accuracy : Nat) :
    List Nat → (next : Array Nat) → Array CodeState → Array CodeState
  | [], _, made => made
  | symbol :: rest, next, made =>
    let n := next.getD symbol 1
    let bits := accuracy - n.log2
    number accuracy rest (next.set! symbol (n + 1))
      (made.push ⟨symbol, n * (1 <<< bits) - (1 <<< accuracy), bits⟩)

def ofCounts (accuracy : Nat) (counts : Array Count) : StateCode :=
  let size := 1 <<< accuracy
  let symbols := List.range counts.size
  let rare := symbols.filter fun symbol => counts.getD symbol (some 0) == none
  let high := size - rare.length
  let common := symbols.flatMap fun symbol =>
    List.replicate ((counts.getD symbol none).getD 0) symbol
  let table := spread size high common 0 (Array.replicate high 0) ++ rare.reverse.toArray
  ⟨accuracy, number accuracy table.toList (counts.map room) #[]⟩

def ofSymbol (symbol : Nat) : StateCode := ⟨0, #[⟨symbol, 0, 0⟩]⟩

/-- The code that stands in some bytes, and the number of bytes that have been read with it. -/
def read? (mostAccuracy limit : Nat) (bytes : Bytes) (start : Nat) :
    Option (StateCode × Nat) := do
  let bits : Bits := ⟨bytes, 8 * start⟩
  let (low, bits) ← (bits.take 4).toOption
  let accuracy := low + 5
  if mostAccuracy < accuracy then none
  let (counts, bits) ← readCounts limit (limit + 2) (1 <<< accuracy) #[] bits
  if limit + 1 < counts.size then none else return (ofCounts accuracy counts, bits.bytesRead)

/-! ## 3. States -/

def begin? (code : StateCode) (bits : BackBits) : Option (CodeState × BackBits) := do
  let (number, bits) ← bits.take? code.accuracy
  return (code.states.getD number default, bits)

def next? (code : StateCode) (state : CodeState) (bits : BackBits) :
    Option (CodeState × BackBits) := do
  let (added, bits) ← bits.take? state.bits
  return (code.states.getD (state.least + added) default, bits)

end StateCode

end JobDesk.Compression
