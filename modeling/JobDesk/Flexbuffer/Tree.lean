import JobDesk.Json.Basic
import JobDesk.Bytes

/-!
# Tree — values that can be written to a buffer

A tree says for every number whether it is signed, unsigned or a double.  A JSON value becomes the
tree in which exactly the negative integers are signed.
-/

namespace JobDesk.Flexbuffer

inductive Tree where
  | null
  | bool (value : Bool)
  | int (value : Int64)
  | uint (value : UInt64)
  | float (value : Binary64)
  | string (value : String)
  | blob (value : Bytes)
  | vector (items : List Tree)
  | map (members : List (String × Tree))
  deriving Inhabited

namespace Tree

mutual

def ofJson : Json → Tree
  | .null => .null
  | .bool value => .bool value
  | .integer value =>
    if value.val < 0 then .int (Int64.ofInt value.val) else .uint (UInt64.ofNat value.val.toNat)
  | .float value => .float value.val
  | .string value => .string value
  | .array items => .vector (ofItems items [])
  | .object members => .map (ofMembers members [])

def ofItems : List Json → List Tree → List Tree
  | [], made => made.reverse
  | item :: rest, made => ofItems rest (ofJson item :: made)

def ofMembers : List (String × Json) → List (String × Tree) → List (String × Tree)
  | [], made => made.reverse
  | (key, value) :: rest, made => ofMembers rest ((key, ofJson value) :: made)

end

end Tree

end JobDesk.Flexbuffer
