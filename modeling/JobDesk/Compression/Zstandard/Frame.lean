import JobDesk.Compression.Checksum
import JobDesk.Compression.Fault
import JobDesk.Compression.Zstandard.Sequences

/-!
# Frames — blocks behind a header, one frame behind another

A frame begins with a number that all frames begin with, and a header that tells how much memory it
takes and what follows its blocks.  A block is stored as it is, as one byte with a number, or
compressed.  Frames of another kind are passed over.  If the bytes end within a frame, its whole
blocks count.
-/

namespace JobDesk.Compression.Zstandard

/-! ## 1. Headers -/

/-- The header of a frame: where its blocks begin, how large they can be, the size of its content if
it is stated, and whether a checksum follows. -/
structure Header where
  behind : Nat
  mostBlock : Nat
  contentSize : Option Nat
  hasChecksum : Bool
  deriving DecidableEq, Inhabited

inductive Beginning where
  | frame (header : Header)
  /-- A frame that is passed over, and where it ends. -/
  | passed (behind : Nat)
  | incomplete
  | faulty (fault : Fault)
  deriving DecidableEq, Inhabited

def magic : List UInt8 := [0x28, 0xb5, 0x2f, 0xfd]

/-- Whether bytes begin as a frame begins that is passed over; missing bytes are as they should
be. -/
def isPassed (start : List UInt8) : Bool :=
  start.head?.all (fun b => 0x50 ≤ b && b ≤ 0x5f)
    && (start.drop 1).isPrefixOf [0x2a, 0x4d, 0x18]

def windowSize (b : Nat) : Nat :=
  let base := 1 <<< (10 + b / 8)
  base + base / 8 * (b % 8)

def mostWindow : Nat := 0x8000001

def mostBlock : Nat := 0x20000

def readHeader (bytes : Bytes) (start : Nat) : Beginning :=
  match bytes[start]? with
  | none => .incomplete
  | some flags =>
    let flags := flags.toNat
    let isSingle := flags / 32 % 2 = 1
    let windowPlace := start + 1
    let dictionaryPlace := windowPlace + if isSingle then 0 else 1
    let dictionaryWidth := [0, 1, 2, 4].getD (flags % 4) 0
    let sizePlace := dictionaryPlace + dictionaryWidth
    let sizeWidth := if flags / 64 = 0 ∧ isSingle then 1 else [0, 2, 4, 8].getD (flags / 64) 0
    let behind := sizePlace + sizeWidth
    if bytes.size < behind then .incomplete
    else if flags / 8 % 2 = 1 then .faulty .reservedFlag
    else
      let size := bytes.wordAt sizePlace sizeWidth + if sizeWidth = 2 then 256 else 0
      let window := if isSingle then size else windowSize (bytes.getD windowPlace 0).toNat
      if mostWindow < window then .faulty .largeWindow
      else if bytes.wordAt dictionaryPlace dictionaryWidth ≠ 0 then .faulty .missingDictionary
      else .frame
        { behind := behind
          mostBlock := min window mostBlock
          contentSize := if sizeWidth = 0 then none else some size
          hasChecksum := flags / 4 % 2 = 1 }

def readBeginning (bytes : Bytes) (start : Nat) : Beginning :=
  let first := (bytes.extract start (start + 4)).toList
  if first.isPrefixOf magic then
    if first.length < 4 then .incomplete else readHeader bytes (start + 4)
  else if !isPassed first then .faulty .unknownFrame
  else if bytes.size < start + 8 then .incomplete
  else
    let behind := start + 8 + bytes.wordAt (start + 4) 4
    if bytes.size < behind then .incomplete else .passed behind

/-! ## 2. Blocks -/

/-- How the blocks of a frame are read: what has been written, and where they end unless the bytes
end within them. -/
structure Progress where
  output : Bytes
  behind : Option Nat
  deriving Inhabited

/-- Reads blocks up to the last one; nothing comes of malformed blocks. -/
def readBlocks (bytes : Bytes) (most : Nat) :
    (rounds start : Nat) → Memory → (output : Bytes) → Option Progress
  | 0, _, _, output => some ⟨output, none⟩
  | rounds + 1, start, memory, output =>
    if bytes.size < start + 3 then some ⟨output, none⟩
    else
      let header := bytes.wordAt start 3
      let (kind, size, first) := (header / 2 % 4, header / 8, start + 3)
      let behind := first + if kind = 1 then 1 else size
      if kind = 3 ∨ most < size then none
      else if bytes.size < behind then
        -- Of a stored block, the bytes that are there count.
        some ⟨if kind = 0 then output ++ bytes.extract first bytes.size else output, none⟩
      else
        let written? : Option (Bytes × Memory) :=
          if kind = 0 then some (output ++ bytes.extract first behind, memory)
          else if kind = 1 then some (output ++ Array.replicate size (bytes.getD first 0), memory)
          else readBlock? memory (bytes.extract first behind) output
        match written? with
        | none => none
        | some (output, memory) =>
          if header % 2 = 1 then some ⟨output, some behind⟩
          else readBlocks bytes most rounds behind memory output

/-! ## 3. Frames -/

def readFrame (bytes : Bytes) (header : Header) (before : Bytes) : Except Fault Progress :=
  match readBlocks bytes header.mostBlock bytes.size header.behind {} #[] with
  | none => .error .badFrame
  | some ⟨content, none⟩ => .ok ⟨before ++ content, none⟩
  | some ⟨content, some behind⟩ =>
    if header.contentSize.any (· ≠ content.size) then .error .badFrame
    else if !header.hasChecksum then .ok ⟨before ++ content, some behind⟩
    else if bytes.size < behind + 4 then .ok ⟨before ++ content, none⟩
    else if bytes.wordAt behind 4 ≠ (Checksum.mixed content).toNat % 0x100000000 then
      .error .changedContent
    else .ok ⟨before ++ content, some (behind + 4)⟩

/-- Reads frames up to the end of the bytes; each round takes a frame. -/
def readFrames (bytes : Bytes) : (rounds start : Nat) → Bytes → Except Fault Decompressed
  | 0, _, output => .ok ⟨output, none⟩
  | rounds + 1, start, output =>
    if bytes.size ≤ start then .ok ⟨output, none⟩
    else
      match readBeginning bytes start with
      | .incomplete => .ok ⟨output, none⟩
      | .faulty fault => .error fault
      | .passed behind => readFrames bytes rounds behind output
      | .frame header =>
        match readFrame bytes header output with
        | .error fault => .error fault
        | .ok ⟨output, none⟩ => .ok ⟨output, none⟩
        | .ok ⟨output, some behind⟩ => readFrames bytes rounds behind output

def decompress (bytes : Bytes) : Except Fault Decompressed :=
  readFrames bytes (bytes.size + 1) 0 #[]

end JobDesk.Compression.Zstandard
