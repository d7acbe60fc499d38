import JobDesk.Binary64

/-!
# Json — JSON values

A JSON integer is exact between `-2 ^ 63` and `2 ^ 64 - 1`; every other number is a finite double.
An object is a list of members in increasing key order.  `Json.ofMembers` brings members into that
order and lets the last of several members with one key win; `Json.Ordered` says that a value has
the order at every depth.
-/

namespace JobDesk

abbrev JsonInteger := { n : Int // -0x8000000000000000 ≤ n ∧ n < 0x10000000000000000 }

abbrev FiniteDouble := { x : Binary64 // x.isFinite = true }

inductive Json where
  | null
  | bool (value : Bool)
  | integer (value : JsonInteger)
  | float (value : FiniteDouble)
  | string (value : String)
  | array (items : List Json)
  | object (members : List (String × Json))
  deriving Inhabited

namespace Json

/-! ## 1. Members of objects -/

def keepLast {α : Type} : List (String × α) → List (String × α)
  | first :: second :: rest =>
    if first.1 = second.1 then keepLast (second :: rest) else first :: keepLast (second :: rest)
  | members => members

/-- Members in key order, each key once, with the value it was given last. -/
def sortMembers {α : Type} (members : List (String × α)) : List (String × α) :=
  keepLast (members.mergeSort fun a b => !decide (b.1 < a.1))

def ofMembers (members : List (String × Json)) : Json :=
  .object (sortMembers members)

mutual

/-- Every object in the value has its keys in strictly increasing order. -/
def Ordered : Json → Prop
  | .array items => OrderedItems items
  | .object members => (members.map (·.1)).Pairwise (· < ·) ∧ OrderedMembers members
  | _ => True

def OrderedItems : List Json → Prop
  | [] => True
  | item :: rest => item.Ordered ∧ OrderedItems rest

def OrderedMembers : List (String × Json) → Prop
  | [] => True
  | (_, value) :: rest => value.Ordered ∧ OrderedMembers rest

end

/-! ## 2. Numbers -/

def ofDouble (x : Binary64) : Json :=
  if h : x.isFinite = true then .float ⟨x, h⟩ else .null

/-- A whole number: exact where JSON integers are, else the nearest double. -/
def ofInt (n : Int) : Json :=
  if h : -0x8000000000000000 ≤ n ∧ n < 0x10000000000000000 then .integer ⟨n, h⟩
  else ofDouble (Binary64.ofRatio (n < 0) n.natAbs 1)

def ofInt64 (n : Int64) : Json :=
  .integer ⟨n.toInt, by have := n.le_toInt; omega, by have := n.toInt_lt; omega⟩

def ofInt16 (n : Int16) : Json :=
  .integer ⟨n.toInt, by have := n.le_toInt; omega, by have := n.toInt_lt; omega⟩

def ofUInt64 (n : UInt64) : Json :=
  .integer ⟨n.toNat, by omega, by have := n.toNat_lt; omega⟩

/-! ## 3. Looking into a value -/

def field? (name : String) : Json → Option Json
  | .object members => (members.find? (·.1 == name)).map (·.2)
  | _ => none

mutual

def same : Json → Json → Bool
  | .null, .null => true
  | .bool a, .bool b => a == b
  | .integer a, .integer b => a.val == b.val
  | .float a, .float b => a.val.bits == b.val.bits
  | .string a, .string b => a == b
  | .array a, .array b => sameItems a b
  | .object a, .object b => sameMembers a b
  | _, _ => false

def sameItems : List Json → List Json → Bool
  | [], [] => true
  | a :: as, b :: bs => if same a b then sameItems as bs else false
  | _, _ => false

def sameMembers : List (String × Json) → List (String × Json) → Bool
  | [], [] => true
  | (k, a) :: as, (l, b) :: bs => if k == l && same a b then sameMembers as bs else false
  | _, _ => false

end

end Json

end JobDesk
