import JobDesk.Compression.Deflate
import JobDesk.Compression.Zstandard.Literals

/-!
# Sequences — how a block is put together

A sequence writes some literals and then again what has stood at some distance before.  The
lengths and the distance are written in three codes, whose states are read in turn.  The last three
distances are kept, so that they can be named again.
-/

namespace JobDesk.Compression.Zstandard

/-! ## 1. Codes -/

/-- The least number of each symbol for literals, and the number of bits that are added to it. -/
def literalNumbers : Array (Nat × Nat) :=
  (Array.range 16).map (·, 0) ++ #[
    (16, 1), (18, 1), (20, 1), (22, 1), (24, 2), (28, 2), (32, 3), (40, 3), (48, 4), (64, 6),
    (128, 7), (256, 8), (512, 9), (1024, 10), (2048, 11), (4096, 12), (8192, 13), (16384, 14),
    (32768, 15), (65536, 16)]

/-- The least length of each symbol for lengths, and the number of bits that are added to it. -/
def lengthNumbers : Array (Nat × Nat) :=
  (Array.range 32).map (· + 3, 0) ++ #[
    (35, 1), (37, 1), (39, 1), (41, 1), (43, 2), (47, 2), (51, 3), (59, 3), (67, 4), (83, 4),
    (99, 5), (131, 7), (259, 8), (515, 9), (1027, 10), (2051, 11), (4099, 12), (8195, 13),
    (16387, 14), (32771, 15), (65539, 16)]

/-- The least number of each symbol for distances, and the number of bits that are added to it. -/
def distanceNumbers : Array (Nat × Nat) := (Array.range 32).map fun n => (1 <<< n, n)

/-- One of the three codes: its numbers, the code that is used where none is stated, and the limits
of a stated one. -/
structure CodeKind where
  numbers : Array (Nat × Nat)
  standard : StateCode
  mostAccuracy : Nat

def standardCode (accuracy : Nat) (counts : List Nat) (rare : Nat) : StateCode :=
  .ofCounts accuracy (counts.map some ++ List.replicate rare none).toArray

def literalKind : CodeKind where
  numbers := literalNumbers
  standard := standardCode 6 ([4, 3] ++ List.replicate 11 2 ++ [1, 1, 1] ++ List.replicate 9 2 ++
    [3, 2, 1, 1, 1, 1, 1]) 4
  mostAccuracy := 9

def lengthKind : CodeKind where
  numbers := lengthNumbers
  standard := standardCode 6 ([1, 4, 3] ++ List.replicate 6 2 ++ List.replicate 37 1) 7
  mostAccuracy := 9

def distanceKind : CodeKind where
  numbers := distanceNumbers
  standard := standardCode 5 (List.replicate 6 1 ++ [2, 2, 2] ++ List.replicate 15 1) 5
  mostAccuracy := 8

def CodeKind.read? (kind : CodeKind) (mode : Nat) (old : Option StateCode) (bytes : Bytes)
    (start : Nat) : Option (StateCode × Nat) :=
  if mode = 0 then some (kind.standard, start)
  else if mode = 1 then
    bytes[start]?.bind fun b =>
      if b.toNat < kind.numbers.size then some (.ofSymbol b.toNat, start + 1) else none
  else if mode = 2 then StateCode.read? kind.mostAccuracy (kind.numbers.size - 1) bytes start
  else old.map fun code => (code, start)

/-! ## 2. Distances -/

structure Recent where
  first : Nat := 1
  second : Nat := 4
  third : Nat := 8
  deriving DecidableEq, Inhabited

/-- The distance that a number stands for, and the last distances after it.  Small numbers name the
last ones; where no literals stand before, the latest is not meant. -/
def Recent.take (recent : Recent) (number : Nat) (isBare : Bool) : Nat × Recent :=
  let ⟨a, b, c⟩ := recent
  if 3 < number then (number - 3, ⟨number - 3, a, b⟩)
  else
    let place := if isBare then number + 1 else number
    if place = 1 then (a, recent)
    else if place = 2 then (b, ⟨b, a, c⟩)
    else if place = 3 then (c, ⟨c, a, b⟩)
    else (a - 1, ⟨a - 1, a, b⟩)

/-! ## 3. Blocks -/

structure Memory where
  bytes : Option ByteCode := none
  literals : Option StateCode := none
  lengths : Option StateCode := none
  distances : Option StateCode := none
  recent : Recent := {}
  deriving Inhabited

structure Automaton where
  literals : StateCode × CodeState
  lengths : StateCode × CodeState
  distances : StateCode × CodeState
  deriving Inhabited

def readNumber? (table : Array (Nat × Nat)) (symbol : Nat) (bits : BackBits) :
    Option (Nat × BackBits) := do
  let (least, count) ← table[symbol]?
  let (added, bits) ← bits.take? count
  return (least + added, bits)

def Automaton.next? (a : Automaton) (bits : BackBits) : Option (Automaton × BackBits) := do
  let (literals, bits) ← a.literals.1.next? a.literals.2 bits
  let (lengths, bits) ← a.lengths.1.next? a.lengths.2 bits
  let (distances, bits) ← a.distances.1.next? a.distances.2 bits
  return (⟨(a.literals.1, literals), (a.lengths.1, lengths), (a.distances.1, distances)⟩, bits)

/-- A sequence: how many literals it writes, and the length and the distance of what it repeats. -/
structure Sequence where
  literals : Nat
  length : Nat
  distance : Nat
  deriving DecidableEq, Inhabited

def readSequences? : (count : Nat) → Automaton → BackBits → Recent → List Sequence →
    Option (List Sequence × Recent)
  | 0, _, bits, recent, made => if bits.left = 0 then some (made, recent) else none
  | count + 1, a, bits, recent, made => do
    let (number, bits) ← readNumber? distanceNumbers a.distances.2.symbol bits
    let (length, bits) ← readNumber? lengthNumbers a.lengths.2.symbol bits
    let (literals, bits) ← readNumber? literalNumbers a.literals.2.symbol bits
    let (distance, recent) := recent.take number (literals == 0)
    let (a, bits) ← if count = 0 then some (a, bits) else a.next? bits
    readSequences? count a bits recent (⟨literals, length, distance⟩ :: made)

def readCount? (bytes : Bytes) (start : Nat) : Option (Nat × Nat) := do
  let first := (← bytes[start]?).toNat
  if first < 128 then return (first, start + 1)
  else if first < 255 then
    return ((first - 128) * 256 + (← bytes[start + 1]?).toNat, start + 2)
  else if bytes.size < start + 3 then none
  else return (bytes.wordAt (start + 1) 2 + 0x7f00, start + 3)

/-- Writes literals from a place on, in the order of the sequences, and what they repeat. -/
def write? (literals : Bytes) : (place : Nat) → List Sequence → Bytes → Option Bytes
  | place, [], output => some (output ++ literals.extract place literals.size)
  | place, s :: rest, output =>
    let behind := place + s.literals
    if literals.size < behind then none
    else
      let output := output ++ literals.extract place behind
      if s.distance = 0 ∨ output.size < s.distance then none
      else write? literals behind rest (Deflate.copy s.distance s.length output)

/-- The sequences that stand behind the literals of a block, the latest first, and what is left to
later blocks. -/
def readSection? (memory : Memory) (bytes : Bytes) (start : Nat) :
    Option (List Sequence × Memory) := do
  let (count, start) ← readCount? bytes start
  if count = 0 then if start = bytes.size then return ([], memory) else none
  let modes := (← bytes[start]?).toNat
  if modes % 4 ≠ 0 then none
  let (literals, start) ← literalKind.read? (modes / 64) memory.literals bytes (start + 1)
  let (distances, start) ← distanceKind.read? (modes / 16 % 4) memory.distances bytes start
  let (lengths, start) ← lengthKind.read? (modes / 4 % 4) memory.lengths bytes start
  if bytes.size < start then none
  let bits ← BackBits.open? bytes start (bytes.size - start)
  let (literalState, bits) ← literals.begin? bits
  let (distanceState, bits) ← distances.begin? bits
  let (lengthState, bits) ← lengths.begin? bits
  let a : Automaton :=
    ⟨(literals, literalState), (lengths, lengthState), (distances, distanceState)⟩
  let (sequences, recent) ← readSequences? count a bits memory.recent []
  return (sequences, ⟨memory.bytes, literals, lengths, distances, recent⟩)

def readBlock? (memory : Memory) (block output : Bytes) : Option (Bytes × Memory) := do
  let literals ← Literals.read? block 0 memory.bytes
  let (sequences, memory) ←
    readSection? { memory with bytes := literals.code } block literals.behind
  return (← write? literals.content 0 sequences.reverse output, memory)

end JobDesk.Compression.Zstandard
