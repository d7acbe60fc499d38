import JobDesk.Flexbuffer.Width

/-!
# Kind — what a type byte says

A type byte holds a kind in its six high bits and a width in its two low ones.  `Kind.ofCode?_code`
says that every kind is told by its code.
-/

namespace JobDesk.Flexbuffer

inductive NumberKind where
  | int | uint | float
  deriving DecidableEq, Inhabited, Repr

inductive FixedLength where
  | two | three | four
  deriving DecidableEq, Inhabited, Repr

inductive Kind where
  | null
  | number (item : NumberKind)
  | key
  | string
  /-- A number that stands elsewhere. -/
  | indirect (item : NumberKind)
  | map
  /-- A list whose items have type bytes. -/
  | vector
  /-- A list of numbers of one kind. -/
  | numbers (item : NumberKind)
  | keys
  | strings
  /-- A list of numbers without a length. -/
  | fixed (length : FixedLength) (item : NumberKind)
  | blob
  | bool
  | bools
  deriving DecidableEq, Inhabited, Repr

namespace NumberKind

def index : NumberKind → Nat
  | int => 0
  | uint => 1
  | float => 2

end NumberKind

namespace FixedLength

def count : FixedLength → Nat
  | two => 2
  | three => 3
  | four => 4

def ofCount? : Nat → Option FixedLength
  | 2 => some two
  | 3 => some three
  | 4 => some four
  | _ => none

end FixedLength

namespace Kind

def code : Kind → Nat
  | null => 0
  | number item => 1 + item.index
  | key => 4
  | string => 5
  | indirect item => 6 + item.index
  | map => 9
  | vector => 10
  | numbers item => 11 + item.index
  | keys => 14
  | strings => 15
  | fixed length item => 16 + 3 * (length.count - 2) + item.index
  | blob => 25
  | bool => 26
  | bools => 36

def ofCode? : Nat → Option Kind
  | 0 => some null
  | 1 => some (number .int)
  | 2 => some (number .uint)
  | 3 => some (number .float)
  | 4 => some key
  | 5 => some string
  | 6 => some (indirect .int)
  | 7 => some (indirect .uint)
  | 8 => some (indirect .float)
  | 9 => some map
  | 10 => some vector
  | 11 => some (numbers .int)
  | 12 => some (numbers .uint)
  | 13 => some (numbers .float)
  | 14 => some keys
  | 15 => some strings
  | 16 => some (fixed .two .int)
  | 17 => some (fixed .two .uint)
  | 18 => some (fixed .two .float)
  | 19 => some (fixed .three .int)
  | 20 => some (fixed .three .uint)
  | 21 => some (fixed .three .float)
  | 22 => some (fixed .four .int)
  | 23 => some (fixed .four .uint)
  | 24 => some (fixed .four .float)
  | 25 => some blob
  | 26 => some bool
  | 36 => some bools
  | _ => none

def isInline : Kind → Bool
  | null | number _ | bool => true
  | _ => false

theorem ofCode?_code (k : Kind) : ofCode? k.code = some k := by
  cases k with
  | number item | indirect item | numbers item => cases item <;> rfl
  | fixed length item => cases length <;> cases item <;> rfl
  | _ => rfl

def typeByte (k : Kind) (w : Width) : UInt8 :=
  UInt8.ofNat (4 * k.code + w.code)

def ofTypeByte? (b : UInt8) : Option (Kind × Width) :=
  (ofCode? (b.toNat / 4)).map fun k => (k, Width.ofCode b.toNat)

end Kind

end JobDesk.Flexbuffer
