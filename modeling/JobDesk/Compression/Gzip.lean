import JobDesk.Compression.Checksum
import JobDesk.Compression.Deflate
import JobDesk.Compression.Fault

/-!
# Compressed files — blocks between a header and a trailer

The header has ten bytes and then the fields that its flags announce.  The trailer has the checksum
of the content and its size.  If the bytes end too early, the checksum is missing, and that is found
at the end.
-/

namespace JobDesk.Compression.Gzip

/-! ## 1. Headers -/

inductive Header where
  /-- The header takes a number of bytes. -/
  | complete (size : Nat)
  | incomplete
  | faulty (fault : Fault)
  deriving DecidableEq, Inhabited

inductive Field where
  /-- Some bytes with their number before them. -/
  | counted
  /-- A name or comment, which a zero ends. -/
  | ended
  /-- The checksum of all that stands before it. -/
  | checksum
  deriving DecidableEq, Inhabited

def fields (flags : UInt8) : List Field :=
  (if flags / 4 % 2 = 1 then [.counted] else []) ++ (if flags / 8 % 2 = 1 then [.ended] else [])
    ++ (if flags / 16 % 2 = 1 then [.ended] else [])
    ++ (if flags / 2 % 2 = 1 then [.checksum] else [])

def longestEnded : Nat := 65535

def readFields (bytes : Bytes) : (start : Nat) → List Field → Header
  | start, [] => .complete start
  | start, .counted :: rest =>
    if bytes.size < start + 2 then .incomplete
    else
      let behind := start + 2 + bytes.wordAt start 2
      if bytes.size < behind then .incomplete else readFields bytes behind rest
  | start, .ended :: rest =>
    let length := ((bytes.toList.drop start).takeWhile (· != 0)).length
    if longestEnded < length then .faulty .longHeader
    else if bytes.size ≤ start + length then .incomplete
    else readFields bytes (start + length + 1) rest
  | start, .checksum :: rest =>
    if bytes.size < start + 2 then .incomplete
    else if bytes.wordAt start 2 ≠ Checksum.remainder (bytes.extract 0 start) % 65536 then
      .faulty .badChecksum
    else readFields bytes (start + 2) rest

def readHeader (bytes : Bytes) : Header :=
  if bytes.size < 10 then .incomplete
  else
    let flags := bytes.getD 3 0
    -- Two bytes that all such files begin with, the number of the method, and no unknown flags.
    if bytes.extract 0 3 ≠ #[0x1f, 0x8b, 8] ∨ 32 ≤ flags then .faulty .badHeader
    else readFields bytes 10 (fields flags)

/-! ## 2. Files -/

def readBody (bytes : Bytes) (start : Nat) : Except Fault Decompressed :=
  match Deflate.inflate bytes start with
  | none => .error .badBlocks
  | some ⟨content, none⟩ => .ok ⟨content, some .badChecksum⟩
  | some ⟨content, some taken⟩ =>
    if taken + 8 < bytes.size then .error .surplus
    else
      let isRight := bytes.size == taken + 8
        && bytes.wordAt taken 4 == Checksum.remainder content
        && bytes.wordAt (taken + 4) 4 == content.size % 0x100000000
      .ok ⟨content, if isRight then none else some .badChecksum⟩

def decompress (bytes : Bytes) : Except Fault Decompressed :=
  match readHeader bytes with
  | .complete size => readBody bytes size
  | .incomplete => .ok ⟨#[], some .badChecksum⟩
  | .faulty fault => .error fault

end JobDesk.Compression.Gzip
