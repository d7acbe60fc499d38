import JobDesk.Compression.Zstandard.StateCode

/-!
# Literals — the bytes of a block that are not repeated

Literals are stored as they are, as one byte with a number, or in a code.  A code is stated by the
weights of its symbols: a symbol has twice as many words of the greatest length as one of the weight
below.  The weight of the last symbol is not stated, since it fills what is left.
-/

namespace JobDesk.Compression.Zstandard

/-! ## 1. Codes -/

/-- A code of bytes: the length of its longest words, and for each such word the byte that it begins
with and the length of that byte's word. -/
structure ByteCode where
  longest : Nat
  words : Array (UInt8 × Nat)
  deriving Inhabited

namespace ByteCode

def room (weight : Nat) : Nat := if weight = 0 then 0 else 1 <<< (weight - 1)

def wordsOf (longest : Nat) (weights : Array Nat) (weight : Nat) : Array (UInt8 × Nat) :=
  (List.range weights.size).foldl
    (fun made symbol =>
      if weights.getD symbol 0 = weight then
        made ++ Array.replicate (room weight) (UInt8.ofNat symbol, longest + 1 - weight)
      else made)
    #[]

def ofWeights? (weights : Array Nat) : Option ByteCode :=
  let covered := weights.foldl (fun sum weight => sum + room weight) 0
  let longest := covered.log2 + 1
  let rest := (1 <<< longest) - covered
  if covered = 0 ∨ 11 < longest ∨ rest ≠ 1 <<< rest.log2 then none
  else
    let weights := weights.push (rest.log2 + 1)
    some ⟨longest, (List.range longest).foldl
      (fun made i => made ++ wordsOf longest weights (i + 1)) #[]⟩

/-- Weights that are written in a state code, read by two states in turn until the bits for a next
state are missing. -/
def readWeights (code : StateCode) :
    (rounds : Nat) → (state other : CodeState) → BackBits → Array Nat → Option (Array Nat)
  | 0, _, _, _, _ => none
  | rounds + 1, state, other, bits, made =>
    let made := made.push state.symbol
    match code.next? state bits with
    | none => some (made.push other.symbol)
    | some (state, bits) => readWeights code rounds other state bits made

def weights? (bytes : Bytes) (start : Nat) : Option (Array Nat × Nat) := do
  let size := (← bytes[start]?).toNat
  if 128 ≤ size then
    let count := size - 127
    let behind := start + 1 + (count + 1) / 2
    if bytes.size < behind then none
    let weight (i : Nat) : Nat :=
      let pair := (bytes.getD (start + 1 + i / 2) 0).toNat
      if i % 2 = 0 then pair / 16 else pair % 16
    return ((Array.range count).map weight, behind)
  else
    let (code, first) ← StateCode.read? 6 255 bytes (start + 1)
    let behind := start + 1 + size
    if bytes.size < behind ∨ behind ≤ first then none
    let bits ← BackBits.open? bytes first (behind - first)
    let (state, bits) ← code.begin? bits
    let (other, bits) ← code.begin? bits
    return (← readWeights code 256 state other bits #[], behind)

def read? (bytes : Bytes) (start : Nat) : Option (ByteCode × Nat) := do
  let (weights, behind) ← weights? bytes start
  if 255 < weights.size then none
  return (← ofWeights? weights, behind)

def decode (code : ByteCode) : (count : Nat) → BackBits → Bytes → Option Bytes
  | 0, bits, made => if bits.left = 0 then some made else none
  | count + 1, bits, made =>
    let (b, length) := code.words.getD (bits.ahead code.longest) (0, 0)
    if bits.left < length then none else decode code count (bits.skip length) (made.push b)

def decodeRow (code : ByteCode) (bytes : Bytes) (first size count : Nat) (made : Bytes) :
    Option Bytes := do
  code.decode count (← BackBits.open? bytes first size) made

/-- The bytes of four rows, of which each but the last has a quarter of them, rounded up.  The sizes
of the first three rows are stated before them. -/
def decodeRows (code : ByteCode) (bytes : Bytes) (first size count : Nat) : Option Bytes := do
  let quarter := (count + 3) / 4
  let sizeOf (i : Nat) : Nat := bytes.wordAt (first + 2 * i) 2
  let before (i : Nat) : Nat := first + 6 + (List.range i).foldl (fun sum i => sum + sizeOf i) 0
  if size < 6 ∨ first + size < before 3 ∨ count < 3 * quarter then none
  let made ← code.decodeRow bytes (before 0) (sizeOf 0) quarter #[]
  let made ← code.decodeRow bytes (before 1) (sizeOf 1) quarter made
  let made ← code.decodeRow bytes (before 2) (sizeOf 2) quarter made
  code.decodeRow bytes (before 3) (first + size - before 3) (count - 3 * quarter) made

end ByteCode

/-! ## 2. Sections -/

/-- The literals of a block, the code for those of later blocks, and where they end. -/
structure Literals where
  content : Bytes
  code : Option ByteCode
  behind : Nat
  deriving Inhabited

namespace Literals

def readPlain? (bytes : Bytes) (start : Nat) (isRepeated : Bool) (code : Option ByteCode) :
    Option Literals :=
  let form := (bytes.getD start 0).toNat / 4 % 4
  let (header, size) :=
    if form = 1 then (2, bytes.wordAt start 2 / 16)
    else if form = 3 then (3, bytes.wordAt start 3 / 16)
    else (1, bytes.wordAt start 1 / 8)
  let first := start + header
  let behind := first + if isRepeated then 1 else size
  if bytes.size < behind then none
  else
    let content := if isRepeated then Array.replicate size (bytes.getD first 0)
      else bytes.extract first behind
    some ⟨content, code, behind⟩

def readCoded? (bytes : Bytes) (start : Nat) (isStated : Bool) (code : Option ByteCode) :
    Option Literals := do
  let form := (bytes.getD start 0).toNat / 4 % 4
  let (header, width) := if form = 3 then (5, 18) else if form = 2 then (4, 14) else (3, 10)
  if bytes.size < start + header then none
  let sizes := bytes.wordAt start header / 16
  let (count, size) := (sizes % (1 <<< width), sizes / (1 <<< width))
  let first := start + header
  let behind := first + size
  if bytes.size < behind then none
  let (code, first) ←
    if isStated then ByteCode.read? bytes first else code.map fun code => (code, first)
  if behind < first then none
  let content ←
    if form = 0 then code.decodeRow bytes first (behind - first) count #[]
    else code.decodeRows bytes first (behind - first) count
  return ⟨content, some code, behind⟩

def read? (bytes : Bytes) (start : Nat) (code : Option ByteCode) : Option Literals :=
  match bytes[start]? with
  | none => none
  | some first =>
    let kind := first.toNat % 4
    if kind = 0 then readPlain? bytes start false code
    else if kind = 1 then readPlain? bytes start true code
    else readCoded? bytes start (kind == 2) code

end Literals

end JobDesk.Compression.Zstandard
