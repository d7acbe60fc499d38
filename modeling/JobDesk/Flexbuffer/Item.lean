import JobDesk.Flexbuffer.Kind
import JobDesk.Binary64

/-!
# Item — values as they are found

An item is a value in a buffer: its kind, the width of its numbers and where it stands.  Any bytes
can be looked at as a buffer: what lies outside it counts as zero, as no text or as no item, and
only what would lie before its start is refused.
-/

namespace JobDesk.Flexbuffer

inductive LayoutFault where
  | outOfBounds
  | invalidRootWidth
  | invalidType
  | invalidIndex
  | invalidKeysWidth
  /-- A value that holds itself. -/
  | endless
  deriving DecidableEq, Inhabited

def LayoutFault.name : LayoutFault → String
  | outOfBounds => "FlexbufferOutOfBounds"
  | invalidRootWidth => "InvalidRootWidth"
  | invalidType => "InvalidPackedType"
  | invalidIndex => "IndexOutOfBounds"
  | invalidKeysWidth => "InvalidMapKeysVectorWidth"
  | endless => "EndlessNesting"

structure Item where
  kind : Kind
  width : Width
  address : Nat
  deriving DecidableEq, Inhabited

namespace Item

/-! ## 1. Finding items -/

def follow (bytes : Bytes) (place : Nat) (width : Width) : Except LayoutFault Nat :=
  let distance := bytes.wordAt place width.bytes
  if place < distance then .error .outOfBounds else .ok (place - distance)

/-- The item that the slot at `place` stands for, in a list whose slots have the width `list`. -/
def ofSlot (bytes : Bytes) (kind : Kind) (width : Width) (place : Nat) (list : Width) :
    Except LayoutFault Item :=
  if kind.isInline then .ok ⟨kind, width, place⟩
  else do
    let address ← follow bytes place list
    match kind with
    | .indirect item => return ⟨.number item, width, address⟩
    | kind => return ⟨kind, width, address⟩

def root (bytes : Bytes) : Except LayoutFault Item :=
  if bytes.size < 3 then .error .outOfBounds
  else
    match Width.ofBytes? (bytes.getD (bytes.size - 1) 0).toNat with
    | none => .error .invalidRootWidth
    | some list =>
      match Kind.ofTypeByte? (bytes.getD (bytes.size - 2) 0) with
      | none => .error .invalidType
      | some (kind, width) =>
        if bytes.size - 2 < list.bytes then .error .outOfBounds
        else ofSlot bytes kind width (bytes.size - 2 - list.bytes) list

/-! ## 2. Numbers and texts -/

def word (bytes : Bytes) (item : Item) : Nat :=
  bytes.wordAt item.address item.width.bytes

def length (bytes : Bytes) (item : Item) : Nat :=
  if item.address < item.width.bytes then 0
  else bytes.wordAt (item.address - item.width.bytes) item.width.bytes

def content? (bytes : Bytes) (item : Item) : Option Bytes :=
  let stop := item.address + item.length bytes
  if stop ≤ bytes.size then some (bytes.extract item.address stop) else none

def text (bytes : Bytes) (item : Item) : String :=
  ((item.content? bytes).bind Bytes.toText?).getD ""

def zeroFrom? (bytes : Bytes) : (rounds place : Nat) → Option Nat
  | 0, _ => none
  | rounds + 1, place =>
    if bytes.getD place 1 = 0 then some place else zeroFrom? bytes rounds (place + 1)

def keyText (bytes : Bytes) (address : Nat) : String :=
  match zeroFrom? bytes (bytes.size - address) address with
  | some stop => (Bytes.toText? (bytes.extract address stop)).getD ""
  | none => ""

/-! ## 3. Lists -/

def count (bytes : Bytes) (item : Item) : Nat :=
  match item.kind with
  | .fixed length _ => length.count
  | _ => item.length bytes

def typeOf? (bytes : Bytes) (list : Item) (count index : Nat) : Option (Kind × Width) :=
  match list.kind with
  | .numbers item | .fixed _ item => some (.number item, list.width)
  | .keys | .strings => some (.key, list.width)
  | .bools => some (.bool, list.width)
  | _ => do
    let typeByte ← bytes[list.address + count * list.width.bytes + index]?
    Kind.ofTypeByte? typeByte

def get? (bytes : Bytes) (list : Item) (count index : Nat) : Option Item := do
  let (kind, width) ← list.typeOf? bytes count index
  (ofSlot bytes kind width (list.address + index * list.width.bytes) list.width).toOption

/-! ## 4. Maps -/

structure Keys where
  address : Nat
  width : Width
  deriving DecidableEq

def keys (bytes : Bytes) (map : Item) : Except LayoutFault Keys :=
  let step := map.width.bytes
  if map.address ≤ 3 * step then .error .outOfBounds
  else
    match Width.ofBytes? (bytes.wordAt (map.address - 2 * step) step) with
    | none => .error .invalidKeysWidth
    | some width => (follow bytes (map.address - 3 * step) map.width).map (⟨·, width⟩)

def Keys.get? (bytes : Bytes) (keys : Keys) (index : Nat) : Option String :=
  match follow bytes (keys.address + index * keys.width.bytes) keys.width with
  | .ok address => some (keyText bytes address)
  | .error _ => none

end Item

end JobDesk.Flexbuffer
