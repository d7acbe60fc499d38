import JobDesk.Compression.PrefixCode

/-!
# Deflate — text by its repetitions

A compressed text is a row of blocks.  A block holds bytes as they are, or symbols of a code: a
symbol is a byte, the end of the block, or the length of a piece that has stood before, whose
distance follows.  The last block is marked.
-/

namespace JobDesk.Compression.Deflate

/-! ## 1. Lengths and distances -/

/-- The least length of each length symbol, and the number of bits that are added to it. -/
def lengths : Array (Nat × Nat) := #[
  (3, 0), (4, 0), (5, 0), (6, 0), (7, 0), (8, 0), (9, 0), (10, 0), (11, 1), (13, 1), (15, 1),
  (17, 1), (19, 2), (23, 2), (27, 2), (31, 2), (35, 3), (43, 3), (51, 3), (59, 3), (67, 4),
  (83, 4), (99, 4), (115, 4), (131, 5), (163, 5), (195, 5), (227, 5), (258, 0)]

/-- The least distance of each distance symbol, and the number of bits that are added to it. -/
def distances : Array (Nat × Nat) := #[
  (1, 0), (2, 0), (3, 0), (4, 0), (5, 1), (7, 1), (9, 2), (13, 2), (17, 3), (25, 3), (33, 4),
  (49, 4), (65, 5), (97, 5), (129, 6), (193, 6), (257, 7), (385, 7), (513, 8), (769, 8),
  (1025, 9), (1537, 9), (2049, 10), (3073, 10), (4097, 11), (6145, 11), (8193, 12), (12289, 12),
  (16385, 13), (24577, 13)]

def readNumber (table : Array (Nat × Nat)) (symbol : Nat) (bits : Bits) :
    Except Stop (Nat × Bits) :=
  match table[symbol]? with
  | none => .error .malformed
  | some (least, count) => do
    let (added, bits) ← bits.take count
    return (least + added, bits)

/-! ## 2. Codes of blocks -/

structure Codes where
  symbols : PrefixCode
  distances : PrefixCode
  deriving Inhabited

def Codes.ofLengths (symbols distances : Array Nat) : Except Stop Codes :=
  match PrefixCode.ofLengths? symbols, PrefixCode.ofLengths? distances with
  | some symbols, some distances => .ok ⟨symbols, distances⟩
  | _, _ => .error .malformed

def Codes.standard : Except Stop Codes :=
  Codes.ofLengths
    (Array.replicate 144 8 ++ Array.replicate 112 9 ++ Array.replicate 24 7 ++ Array.replicate 8 8)
    (Array.replicate 32 5)

def lengthOrder : List Nat :=
  [16, 17, 18, 0, 8, 7, 9, 6, 10, 5, 11, 4, 12, 3, 13, 2, 14, 1, 15]

def readOrdered : (order : List Nat) → (made : Array Nat) → Bits → Except Stop (Array Nat × Bits)
  | [], made, bits => .ok (made, bits)
  | symbol :: order, made, bits => do
    let (length, bits) ← bits.take 3
    readOrdered order (made.set! symbol length) bits

def readRun (code : PrefixCode) (made : Array Nat) (bits : Bits) :
    Except Stop (Array Nat × Bits) := do
  let (symbol, bits) ← code.read bits
  if symbol < 16 then return (made.push symbol, bits)
  let (least, count) := if symbol = 16 then (3, 2) else if symbol = 17 then (3, 3) else (11, 7)
  -- Nothing can be repeated where no length stands before.
  if symbol = 16 ∧ made.isEmpty then throw .malformed
  let (added, bits) ← bits.take count
  let length := if symbol = 16 then made.back?.getD 0 else 0
  return (made ++ Array.replicate (least + added) length, bits)

def readLengths (code : PrefixCode) (wanted : Nat) :
    (rounds : Nat) → (made : Array Nat) → Bits → Except Stop (Array Nat × Bits)
  | 0, made, bits => if made.size = wanted then .ok (made, bits) else .error .malformed
  | rounds + 1, made, bits =>
    if wanted ≤ made.size then readLengths code wanted 0 made bits
    else do
      let (made, bits) ← readRun code made bits
      readLengths code wanted rounds made bits

def readCodes (bits : Bits) : Except Stop (Codes × Bits) := do
  let (symbols, bits) ← bits.take 5
  let (distances, bits) ← bits.take 5
  let (ordered, bits) ← bits.take 4
  let (symbols, distances) := (symbols + 257, distances + 1)
  if 286 < symbols ∨ 30 < distances then throw .malformed
  let (lengths, bits) ←
    readOrdered (lengthOrder.take (ordered + 4)) (Array.replicate lengthOrder.length 0) bits
  let code ← match PrefixCode.ofLengths? lengths with
    | some code => pure code
    | none => throw .malformed
  let (lengths, bits) ← readLengths code (symbols + distances) (symbols + distances) #[] bits
  let codes ← Codes.ofLengths (lengths.extract 0 symbols) (lengths.extract symbols lengths.size)
  return (codes, bits)

/-! ## 3. Blocks -/

inductive Block where
  /-- Between two blocks, or behind the last one. -/
  | between (isLast : Bool)
  /-- In a block of which a number of bytes follow as they are. -/
  | plain (isLast : Bool) (left : Nat)
  | coded (isLast : Bool) (codes : Codes)
  deriving Inhabited

inductive Piece where
  | nothing
  | byte (b : UInt8)
  /-- What has stood at some distance before. -/
  | again (length distance : Nat)
  deriving DecidableEq, Inhabited

def Block.ofPlain (isLast : Bool) (left : Nat) : Block :=
  if left = 0 then between isLast else plain isLast left

def readHeader (bits : Bits) : Except Stop (Block × Bits) := do
  let (isLast, bits) ← bits.take 1
  let isLast := isLast == 1
  let (kind, bits) ← bits.take 2
  if kind = 0 then
    let (size, bits) ← bits.align.take 16
    let (inverse, bits) ← bits.take 16
    -- The size is stated twice, the second time with all bits inverted.
    if size + inverse = 65535 then return (.ofPlain isLast size, bits) else throw .malformed
  else if kind = 1 then return (.coded isLast (← Codes.standard), bits)
  else if kind = 2 then
    let (codes, bits) ← readCodes bits
    return (.coded isLast codes, bits)
  else throw .malformed

def readPiece (isLast : Bool) (codes : Codes) (bits : Bits) :
    Except Stop (Piece × Block × Bits) := do
  let (symbol, bits) ← codes.symbols.read bits
  if symbol < 256 then return (.byte (UInt8.ofNat symbol), .coded isLast codes, bits)
  else if symbol = 256 then return (.nothing, .between isLast, bits)
  else
    let (length, bits) ← readNumber lengths (symbol - 257) bits
    let (symbol, bits) ← codes.distances.read bits
    let (distance, bits) ← readNumber distances symbol bits
    return (.again length distance, .coded isLast codes, bits)

def step : Block → Bits → Except Stop (Piece × Block × Bits)
  | .between _, bits => do
    let (block, bits) ← readHeader bits
    return (.nothing, block, bits)
  | .plain isLast left, bits => do
    let (b, bits) ← bits.take 8
    return (.byte (UInt8.ofNat b), .ofPlain isLast (left - 1), bits)
  | .coded isLast codes, bits => readPiece isLast codes bits

/-! ## 4. Texts -/

/-- Writes again what stood at some distance before; what would stand before the beginning is
zero. -/
def copy (distance : Nat) : (length : Nat) → Bytes → Bytes
  | 0, output => output
  | length + 1, output =>
    let again := if output.size < distance then 0 else output.getD (output.size - distance) 0
    copy distance length (output.push again)

def Piece.write : Piece → Bytes → Bytes
  | nothing, output => output
  | byte b, output => output.push b
  | again length distance, output => copy distance length output

/-- A text that has been read: its bytes, and the number of bytes that it took unless they ended too
early. -/
structure Inflated where
  output : Bytes
  taken : Option Nat
  deriving Inhabited

def inflateFrom : (rounds : Nat) → Block → Bits → Bytes → Option Inflated
  | 0, _, _, output => some ⟨output, none⟩
  | rounds + 1, block, bits, output =>
    match block with
    | .between true => some ⟨output, some bits.bytesRead⟩
    | block =>
      match step block bits with
      | .ok (piece, block, bits) => inflateFrom rounds block bits (piece.write output)
      | .error .ended => some ⟨output, none⟩
      | .error .malformed => none

def inflate (bytes : Bytes) (start : Nat) : Option Inflated :=
  inflateFrom (8 * bytes.size + 2) (.between false) ⟨bytes, 8 * start⟩ #[]

end JobDesk.Compression.Deflate
