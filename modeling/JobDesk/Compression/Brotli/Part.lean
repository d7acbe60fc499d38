import JobDesk.Compression.Brotli.Command
import JobDesk.Compression.Brotli.Context

/-!
# Parts — bytes that have codes of their own

A part holds bytes as they are, bytes that are passed over, or commands behind the codes that they
are written in.  The last part of a text is marked.
-/

namespace JobDesk.Compression.Brotli

/-! ## 1. Headers -/

inductive Kind where
  /-- No bytes; behind it the text ends. -/
  | empty
  | plain (size : Nat)
  | passed (size : Nat)
  | coded (size : Nat)
  deriving DecidableEq, Inhabited

/-- A number of some digits of `width` bits, the lowest first.  The last of several digits is not
zero where this is asked for. -/
def readDigits (width : Nat) (isShort : Bool) : (count : Nat) → Bits → Except Stop (Nat × Bits)
  | 0, bits => .ok (0, bits)
  | count + 1, bits => do
    let (digit, bits) ← bits.take width
    if isShort ∧ count = 0 ∧ digit = 0 then throw .malformed
    let (rest, bits) ← readDigits width isShort count bits
    return (digit + rest * (1 <<< width), bits)

/-- Bits from the beginning of the next byte on; those before it are zero. -/
def toByte (bits : Bits) : Except Stop Bits := do
  let (gap, bits) ← bits.take (bits.align.position - bits.position)
  if gap = 0 then return bits else throw .malformed

def readPassed (bits : Bits) : Except Stop (Kind × Bits) := do
  let (isReserved, bits) ← bits.take 1
  if isReserved = 1 then throw .malformed
  let (width, bits) ← bits.take 2
  let (size, bits) ← readDigits 8 (1 < width) width bits
  return (.passed (if width = 0 then 0 else size + 1), ← toByte bits)

/-- The header of a part: whether it is the last one, and what it holds. -/
def readHeader (bits : Bits) : Except Stop (Bool × Kind × Bits) := do
  let (isLast, bits) ← bits.take 1
  let isLast := isLast == 1
  let (isEmpty, bits) ← bits.take (if isLast then 1 else 0)
  if isEmpty = 1 then return (isLast, .empty, bits)
  let (digits, bits) ← bits.take 2
  if digits = 3 then return (isLast, ← readPassed bits)
  let (size, bits) ← readDigits 4 (0 < digits) (digits + 4) bits
  let (isPlain, bits) ← bits.take (if isLast then 0 else 1)
  if isPlain = 1 then return (isLast, .plain (size + 1), ← toByte bits)
  return (isLast, .coded (size + 1), bits)

/-! ## 2. Codes -/

structure Codes where
  literals : Stretches
  commands : Stretches
  distances : Stretches
  form : DistanceForm
  modes : Array ContextMode
  literalMap : ContextMap
  distanceMap : ContextMap
  literalCodes : Array Code
  commandCodes : Array Code
  distanceCodes : Array Code
  deriving Inhabited

def readModes : (count : Nat) → (made : Array ContextMode) → Bits →
    Except Stop (Array ContextMode × Bits)
  | 0, made, bits => .ok (made, bits)
  | count + 1, made, bits => do
    let (number, bits) ← bits.take 2
    readModes count (made.push (.ofNumber number)) bits

def Codes.read (bits : Bits) : Except Stop (Codes × Bits) := do
  let (literals, bits) ← Stretches.read bits
  let (commands, bits) ← Stretches.read bits
  let (distances, bits) ← Stretches.read bits
  let (form, bits) ← DistanceForm.read bits
  let (modes, bits) ← readModes literals.types #[] bits
  let (literalMap, bits) ← ContextMap.read (64 * literals.types) bits
  let (distanceMap, bits) ← ContextMap.read (4 * distances.types) bits
  let (literalCodes, bits) ← Code.readStatements 256 literalMap.codes #[] bits
  let (commandCodes, bits) ← Code.readStatements Brotli.commands commands.types #[] bits
  let (distanceCodes, bits) ← Code.readStatements form.size distanceMap.codes #[] bits
  return (⟨literals, commands, distances, form, modes, literalMap, distanceMap, literalCodes,
    commandCodes, distanceCodes⟩, bits)

def Codes.literalCode (codes : Codes) (last earlier : UInt8) : Code :=
  let type := codes.literals.type
  let context := (codes.modes.getD type .lowBits).context last earlier
  codes.literalCodes.getD (codes.literalMap.numbers.getD (64 * type + context) 0) (.single 0)

def Codes.distanceCode (codes : Codes) (length : Nat) : Code :=
  let place := 4 * codes.distances.type + distanceContext length
  codes.distanceCodes.getD (codes.distanceMap.numbers.getD place 0) (.single 0)

/-! ## 3. Commands -/

inductive Phase where
  | command
  /-- The rest of a command, of whose bytes some are left. -/
  | literals (left : Nat) (command : Command)
  deriving DecidableEq, Inhabited

structure Part where
  bits : Bits
  /-- The last four distances, the latest first. -/
  recent : List Nat
  codes : Codes
  left : Nat
  phase : Phase := .command
  deriving Inhabited

namespace Part

open Deflate (Piece)

def readCommand (part : Part) : Except Stop (Piece × Part) := do
  let (commands, bits) ← part.codes.commands.next part.bits
  let code := part.codes.commandCodes.getD commands.type (.single 0)
  let (command, bits) ← Command.read code bits
  if part.left < command.literals then throw .malformed
  return (.nothing, { part with
    bits := bits
    codes := { part.codes with commands := commands }
    phase := .literals command.literals command })

def readLiteral (part : Part) (output : Bytes) (left : Nat) (command : Command) :
    Except Stop (Piece × Part) := do
  let (literals, bits) ← part.codes.literals.next part.bits
  let codes := { part.codes with literals := literals }
  let last := output.back?.getD 0
  let earlier := if output.size < 2 then 0 else output.getD (output.size - 2) 0
  let (symbol, bits) ← (codes.literalCode last earlier).read bits
  return (.byte (UInt8.ofNat symbol), { part with
    bits := bits
    codes := codes
    left := part.left - 1
    phase := .literals left command })

def takeDistance (part : Part) (command : Command) : Except Stop (Nat × Part) := do
  if command.isLatest then return (part.recent.headD 0, part)
  let (distances, bits) ← part.codes.distances.next part.bits
  let codes := { part.codes with distances := distances }
  let (symbol, bits) ← (codes.distanceCode command.length).read bits
  let (distance, bits) ← codes.form.readDistance part.recent symbol bits
  let recent := if symbol = 0 then part.recent else distance :: part.recent.take 3
  return (distance, { part with bits := bits, codes := codes, recent := recent })

/-- Reads what is repeated of the bytes that have been written.  A distance that reaches beyond them
or beyond `window` bytes would name a word of a list that is not kept here; there must be none. -/
def readDistance (part : Part) (window size : Nat) (command : Command) :
    Except Stop (Piece × Part) := do
  let (distance, part) ← part.takeDistance command
  if min window size < distance ∨ part.left < command.length then throw .malformed
  return (.again command.length distance,
    { part with left := part.left - command.length, phase := .command })

def step (part : Part) (window : Nat) (output : Bytes) : Except Stop (Piece × Part) :=
  match part.phase with
  | .command => part.readCommand
  | .literals 0 command => part.readDistance window output.size command
  | .literals (left + 1) command => part.readLiteral output left command

end Part

/-- A text of which some parts have been read: its bytes so far, and unless the compressed ones have
ended, those that follow and the last distances. -/
structure Reading where
  output : Bytes
  next : Option (Bits × List Nat)
  deriving Inhabited

def Part.finish (window : Nat) : (rounds : Nat) → Part → Bytes → Option Reading
  | 0, _, _ => none
  | rounds + 1, part, output =>
    if part.left = 0 then some ⟨output, some (part.bits, part.recent)⟩
    else
      match part.step window output with
      | .ok (piece, part) => finish window rounds part (piece.write output)
      | .error .ended => some ⟨output, none⟩
      | .error .malformed => none

/-- Reads a part with codes of its own.  A command takes a step, a byte another one, and a
repetition, of two bytes or more, another one. -/
def readCoded (window size : Nat) (bits : Bits) (recent : List Nat) (output : Bytes) :
    Option Reading :=
  match Codes.read bits with
  | .ok (codes, bits) =>
    let part : Part := { bits := bits, recent := recent, codes := codes, left := size }
    Part.finish window (3 * size + 3) part output
  | .error .ended => some ⟨output, none⟩
  | .error .malformed => none

/-- Reads bytes that stand as they are, as many of them as there are; nothing is written of them if
they are passed over. -/
def readBytes (isWritten : Bool) (size : Nat) (bits : Bits) (recent : List Nat) (output : Bytes) :
    Reading :=
  let start := bits.bytesRead
  let found := min size (bits.bytes.size - start)
  let output := if isWritten then output ++ bits.bytes.extract start (start + found) else output
  ⟨output, if found = size then some (bits.skip (8 * size), recent) else none⟩

def Kind.read? (kind : Kind) (window : Nat) (bits : Bits) (recent : List Nat) (output : Bytes) :
    Option Reading :=
  match kind with
  | .empty => some ⟨output, some (bits, recent)⟩
  | .plain size => some (readBytes true size bits recent output)
  | .passed size => some (readBytes false size bits recent output)
  | .coded size => readCoded window size bits recent output

end JobDesk.Compression.Brotli
