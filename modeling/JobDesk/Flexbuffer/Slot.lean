import JobDesk.Flexbuffer.Kind
import JobDesk.Binary64

/-!
# Slot — values as they are listed

A slot is what stands for a value in the list that holds it: the value itself if it is a number, a
truth value or null, and otherwise the distance back to where the value was written.
-/

namespace JobDesk.Flexbuffer

inductive Slot where
  | null
  | bool (value : Bool)
  | int (value : Int64)
  | uint (value : Nat)
  | float (value : Binary64)
  /-- A value of the given kind and width that was written at `address`. -/
  | reference (kind : Kind) (child : Width) (address : Nat)
  deriving Inhabited

inductive UniformKind where
  | numbers (item : NumberKind)
  | bools
  deriving DecidableEq

namespace Slot

def kind : Slot → Kind
  | null => .null
  | bool _ => .bool
  | int _ => .number .int
  | uint _ => .number .uint
  | float _ => .number .float
  | reference kind _ _ => kind

def typeWidth (list : Width) : Slot → Width
  | null | bool _ => list
  | int value => list.max (.ofSigned value.toInt)
  | uint value => list.max (.ofWord value)
  | float value => list.max (if value.narrow?.isSome then .w32 else .w64)
  | reference _ child _ => child

/-- The guess at the place of slot `index` of a list that starts at `start`, if the list had the
given width: the guess takes the width's code plus one for the size of a slot. -/
def guessPlace (start index : Nat) (width : Width) : Nat :=
  let stride := width.code + 1
  start + (stride - start % stride) % stride + index * stride

def width (start index : Nat) : Slot → Width
  | null | bool _ => .w8
  | int value => .ofSigned value.toInt
  | uint value => .ofWord value
  | float value => if value.narrow?.isSome then .w32 else .w64
  | reference _ _ address =>
    (Width.all.find? fun w => Width.ofWord (guessPlace start index w - address) == w).getD .w64

def word (width : Width) (place : Nat) : Slot → Nat
  | null => 0
  | bool value => value.toNat
  | int value => Bytes.wordOfInt width.bytes value.toInt
  | uint value => value
  | float value =>
    match width with
    | .w64 => value.bits.toNat
    | _ => (value.narrow?.map UInt32.toNat).getD 0
  | reference _ _ address => place - address

def uniform? : List Slot → Option UniformKind
  | [] => none
  | first :: rest =>
    let kind? : Option UniformKind :=
      match first with
      | int _ => some (.numbers .int)
      | uint _ => some (.numbers .uint)
      | float _ => some (.numbers .float)
      | bool _ => some .bools
      | _ => none
    if rest.all (·.kind == first.kind) then kind? else none

end Slot

end JobDesk.Flexbuffer
