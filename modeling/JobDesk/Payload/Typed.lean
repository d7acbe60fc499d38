import JobDesk.Payload.Basic
import JobDesk.Decimal.Style

/-!
# Typed values — configs made of records and variants

A config can be given as a value whose parts have types of their own: integers of several widths,
records, variants with a name.  Such a value has a JSON form and, separately, a tree to be written.
Its payload is made from the tree, and the JSON form is only looked at for keys with zero
characters.
-/

namespace JobDesk

inductive Typed where
  | int (value : Int64)
  | uint (value : UInt64)
  | wideInt (value : Int)
  | wideUInt (value : Nat)
  | single (word : UInt32)
  | double (value : Binary64)
  | bool (value : Bool)
  | char (value : Char)
  | string (value : String)
  | blob (value : Bytes)
  /-- The absent value, and the only value of a type that has one. -/
  | unit
  /-- A value that is present, where it might be absent. -/
  | present (value : Typed)
  /-- A value under a type name of its own. -/
  | named (value : Typed)
  | variant (name : String)
  | variantOf (name : String) (value : Typed)
  | list (items : List Typed)
  | map (members : List (Typed × Typed))
  | record (fields : List (String × Typed))
  /-- A value that refuses to be written. -/
  | refused (reason : String)
  deriving Inhabited

namespace Typed

open Payload (EncodeFault)

/-! ## 1. Keys -/

def jsonKey : Typed → Except EncodeFault String
  | string value => .ok value
  | variant name => .ok name
  | named value => jsonKey value
  | char value => .ok value.toString
  | bool value => .ok (toString value)
  | int value => .ok (toString value.toInt)
  | uint value => .ok (toString value.toNat)
  | wideInt value => .ok (toString value)
  | wideUInt value => .ok (toString value)
  | single word =>
    if (Binary64.widen word).isFinite then .ok (Decimal.text32 .single word)
    else .error .infiniteKey
  | double value =>
    if value.isFinite then .ok (Decimal.text .double value) else .error .infiniteKey
  | refused reason => .error (.refused reason)
  | _ => .error .keyWithoutText

def bufferKey : Typed → Except EncodeFault String
  | string value => .ok value
  | variant name => .ok name
  | named value => bufferKey value
  | _ => .error .keyNotText

/-! ## 2. The JSON form -/

def wholeJson (n : Int) : Except EncodeFault Json :=
  if h : -0x8000000000000000 ≤ n ∧ n < 0x10000000000000000 then .ok (.integer ⟨n, h⟩)
  else .error .numberOutOfRange

mutual

def toJson : Typed → Except EncodeFault Json
  | int value => .ok (Json.ofInt64 value)
  | uint value => .ok (Json.ofUInt64 value)
  | wideInt value => wholeJson value
  | wideUInt value => wholeJson value
  | single word => .ok (Json.ofDouble (Binary64.widen word))
  | double value => .ok (Json.ofDouble value)
  | bool value => .ok (.bool value)
  | char value => .ok (.string value.toString)
  | string value => .ok (.string value)
  | blob value => .ok (.array (value.toList.map fun b => Json.ofUInt64 b.toUInt64))
  | unit => .ok .null
  | present value => toJson value
  | named value => toJson value
  | variant name => .ok (.string name)
  | variantOf name value => do return .object [(name, ← toJson value)]
  | list items => do return .array (← itemsToJson items [])
  | map members => do return Json.ofMembers (← membersToJson members [])
  | record fields => do return Json.ofMembers (← fieldsToJson fields [])
  | refused reason => .error (.refused reason)

def itemsToJson : List Typed → List Json → Except EncodeFault (List Json)
  | [], made => .ok made.reverse
  | item :: rest, made => do itemsToJson rest ((← toJson item) :: made)

def membersToJson : List (Typed × Typed) → List (String × Json) →
    Except EncodeFault (List (String × Json))
  | [], made => .ok made.reverse
  | (key, value) :: rest, made => do
    let name ← jsonKey key
    membersToJson rest ((name, ← toJson value) :: made)

def fieldsToJson : List (String × Typed) → List (String × Json) →
    Except EncodeFault (List (String × Json))
  | [], made => .ok made.reverse
  | (name, value) :: rest, made => do fieldsToJson rest ((name, ← toJson value) :: made)

end

/-! ## 3. The tree to be written -/

open Flexbuffer (Tree)

mutual

/-- The tree of a value.  A character is written as the low eight bits of its code point. -/
def toTree : Typed → Except EncodeFault Tree
  | int value => .ok (.int value)
  | uint value => .ok (.uint value)
  | wideInt _ => .error (.unsupported "i128")
  | wideUInt _ => .error (.unsupported "u128")
  | single word => .ok (.float (Binary64.widen word))
  | double value => .ok (.float value)
  | bool value => .ok (.bool value)
  | char value => .ok (.uint (value.toNat % 256).toUInt64)
  | string value => .ok (.string value)
  | blob value => .ok (.blob value)
  | unit => .ok .null
  | present value => toTree value
  | named value => toTree value
  | variant name => .ok (.string name)
  | variantOf name value => do return .map [(name, ← toTree value)]
  | list items => do return .vector (← itemsToTree items [])
  | map members => do return .map (← membersToTree members [])
  | record fields => do return .map (← fieldsToTree fields [])
  | refused reason => .error (.refused reason)

def itemsToTree : List Typed → List Tree → Except EncodeFault (List Tree)
  | [], made => .ok made.reverse
  | item :: rest, made => do itemsToTree rest ((← toTree item) :: made)

def membersToTree : List (Typed × Typed) → List (String × Tree) →
    Except EncodeFault (List (String × Tree))
  | [], made => .ok made.reverse
  | (key, value) :: rest, made => do
    let name ← bufferKey key
    membersToTree rest ((name, ← toTree value) :: made)

def fieldsToTree : List (String × Typed) → List (String × Tree) →
    Except EncodeFault (List (String × Tree))
  | [], made => .ok made.reverse
  | (name, value) :: rest, made => do fieldsToTree rest ((name, ← toTree value) :: made)

end

end Typed

def Payload.encodeTyped (config : Typed) : Except EncodeFault Bytes := do
  match zeroKey? (← config.toJson) with
  | some key => throw (.zeroInKey key)
  | none => return (← config.toTree).toBytes

end JobDesk
