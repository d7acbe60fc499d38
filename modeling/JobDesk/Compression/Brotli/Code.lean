import JobDesk.Compression.PrefixCode

/-!
# Stated codes — codes whose words are stated before they are used

A code of up to four symbols names them.  Any other code states the lengths of its words in a code
of its own, whose lengths are stated before them.  A code of a single symbol takes no bits.
-/

namespace JobDesk.Compression.Brotli

/-! ## 1. Codes -/

inductive Code where
  /-- A symbol that is meant without a word. -/
  | single (symbol : Nat)
  | words (code : PrefixCode)
  deriving Inhabited

def Code.read : Code → Bits → Except Stop (Nat × Bits)
  | .single symbol, bits => .ok (symbol, bits)
  | .words code, bits => code.read bits

def Code.ofLengths? (lengths : Array Nat) : Option Code :=
  match PrefixCode.ofLengths? lengths with
  | none => none
  | some code =>
    match code.symbols.toList with
    | [] => none
    | [symbol] => some (.single symbol)
    | _ => some (.words code)

/-! ## 2. Codes of few symbols -/

def readSymbols (size : Nat) : (count : Nat) → Bits → Except Stop (List Nat × Bits)
  | 0, bits => .ok ([], bits)
  | count + 1, bits => do
    let (symbol, bits) ← bits.take ((size - 1).log2 + 1)
    if size ≤ symbol then throw .malformed
    let (symbols, bits) ← readSymbols size count bits
    return (symbol :: symbols, bits)

def namedLengths (count : Nat) (isSteep : Bool) : List Nat :=
  if count = 2 then [1, 1]
  else if count = 3 then [1, 2, 2]
  else if isSteep then [1, 2, 3, 3]
  else [2, 2, 2, 2]

def Code.ofNames? (size : Nat) (symbols lengths : List Nat) : Option Code :=
  let absent : Array Nat := Array.replicate size 0
  Code.ofLengths? ((symbols.zip lengths).foldl (fun made entry => made.set! entry.1 entry.2) absent)

def readNamed (size : Nat) (bits : Bits) : Except Stop (Code × Bits) := do
  let (count, bits) ← bits.take 2
  let (symbols, bits) ← readSymbols size (count + 1) bits
  if ¬ symbols.Nodup then throw .malformed
  if symbols.length = 1 then return (.single (symbols.headD 0), bits)
  let (steep, bits) ← bits.take (if symbols.length = 4 then 1 else 0)
  match Code.ofNames? size symbols (namedLengths symbols.length (steep == 1)) with
  | some code => return (code, bits)
  | none => throw .malformed

/-! ## 3. Codes of many symbols -/

def shortCode : PrefixCode := ⟨#[0, 0, 3, 1, 2], #[0, 3, 4, 2, 1, 5]⟩

def lengthOrder : List Nat :=
  [1, 2, 3, 4, 0, 5, 17, 6, 16, 7, 8, 9, 10, 11, 12, 13, 14, 15]

/-- The lengths of the code for lengths, until all of its words are used up; `left` of thirty-two
are left. -/
def readOrdered : (order : List Nat) → (left : Nat) → (made : Array Nat) → Bits →
    Except Stop (Array Nat × Bits)
  | [], _, made, bits => .ok (made, bits)
  | symbol :: order, left, made, bits =>
    if left = 0 then .ok (made, bits)
    else do
      let (length, bits) ← shortCode.read bits
      let used := if length = 0 then 0 else 32 >>> length
      if left < used then throw .malformed
      readOrdered order (left - used) (made.set! symbol length) bits

structure Lengths where
  made : Array Nat := #[]
  /-- How many of the longest words are left. -/
  left : Nat := 0x8000
  /-- The latest length that is not zero. -/
  latest : Nat := 8
  /-- The length that was repeated last, and how often if this has just been. -/
  repeated : Nat := 0
  times : Nat := 0
  deriving Inhabited

def Lengths.add (l : Lengths) (length times : Nat) : Except Stop Lengths :=
  let used := if length = 0 then 0 else times * (0x8000 >>> length)
  if l.left < used then .error .malformed
  else .ok { l with made := l.made ++ Array.replicate times length, left := l.left - used }

def Lengths.push (l : Lengths) (length : Nat) : Except Stop Lengths := do
  let l ← l.add length 1
  return { l with latest := if length = 0 then l.latest else length, times := 0 }

/-- Lengths behind which one more is repeated.  A repetition that follows another one of the same
length adds higher digits of `width` bits to its number. -/
def Lengths.again (l : Lengths) (length width added : Nat) : Except Stop Lengths := do
  let before := if l.repeated = length then l.times else 0
  let times := (before - 2) * (1 <<< width) + added + 3
  let l ← l.add length (times - before)
  return { l with repeated := length, times := times }

def readLength (code : Code) (l : Lengths) (bits : Bits) : Except Stop (Lengths × Bits) := do
  let (symbol, bits) ← code.read bits
  if symbol < 16 then return (← l.push symbol, bits)
  let (length, width) := if symbol = 16 then (l.latest, 2) else (0, 3)
  let (added, bits) ← bits.take width
  return (← l.again length width added, bits)

/-- Lengths of `size` words, or of fewer ones if they use up all words; each round adds one or
more. -/
def readLengths (code : Code) (size : Nat) :
    (rounds : Nat) → Lengths → Bits → Except Stop (Array Nat × Bits)
  | 0, l, bits => if l.left = 0 ∧ l.made.size ≤ size then .ok (l.made, bits) else .error .malformed
  | rounds + 1, l, bits =>
    if l.left = 0 ∨ size ≤ l.made.size then readLengths code size 0 l bits
    else do
      let (l, bits) ← readLength code l bits
      readLengths code size rounds l bits

/-- A code that states the lengths of its words, after the first lengths for lengths, which are
zero. -/
def readStated (size zeros : Nat) (bits : Bits) : Except Stop (Code × Bits) := do
  let absent : Array Nat := Array.replicate lengthOrder.length 0
  let (lengths, bits) ← readOrdered (lengthOrder.drop zeros) 32 absent bits
  match Code.ofLengths? lengths with
  | none => throw .malformed
  | some code =>
    let (lengths, bits) ← readLengths code size size {} bits
    match Code.ofLengths? lengths with
    | some (.words code) => return (.words code, bits)
    | _ => throw .malformed

def Code.readStatement (size : Nat) (bits : Bits) : Except Stop (Code × Bits) := do
  let (kind, bits) ← bits.take 2
  if kind = 1 then readNamed size bits else readStated size kind bits

def Code.readStatements (size : Nat) : (count : Nat) → (made : Array Code) → Bits →
    Except Stop (Array Code × Bits)
  | 0, made, bits => .ok (made, bits)
  | count + 1, made, bits => do
    let (code, bits) ← Code.readStatement size bits
    Code.readStatements size count (made.push code) bits

end JobDesk.Compression.Brotli
