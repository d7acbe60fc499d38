import JobDesk.Flexbuffer.Item
import JobDesk.Json.Basic
import JobDesk.Mismatch

/-!
# Reader — from buffers to JSON values

Every item of a buffer becomes the JSON value it stands for, save runs of bytes, which JSON has none
of.  An item without a valid type or place is null.  A buffer is never nested deeper than it is
long, unless a value holds itself.
-/

namespace JobDesk.Flexbuffer

inductive ReadFault where
  | layout (fault : LayoutFault)
  | shape (cause : Mismatch)
  deriving DecidableEq, Inhabited

namespace ReadFault

def message : ReadFault → String
  | layout fault => s!"Flexbuffer Read Error: {fault.name}"
  | shape cause => s!"Serde Error: {cause.message}"

end ReadFault

/-- The results of a step at the places from `index` on, after those already found in reverse. -/
def collect {ε α : Type} (step : Nat → Except ε α) :
    (rounds index : Nat) → (found : List α) → Except ε (List α)
  | 0, _, found => .ok found.reverse
  | rounds + 1, index, found =>
    match step index with
    | .ok value => collect step rounds (index + 1) (value :: found)
    | .error fault => .error fault

namespace Item

def double (bytes : Bytes) (item : Item) : Except ReadFault Json :=
  match item.width with
  | .w32 => .ok (Json.ofDouble (Binary64.widen (UInt32.ofNat (item.word bytes))))
  | .w64 => .ok (Json.ofDouble ⟨UInt64.ofNat (item.word bytes)⟩)
  | _ => .error (.layout .invalidType)

def keyMismatch (index : Nat) : Mismatch :=
  .kind "unit value" (if index = 0 then "a string key" else "a string")

def toJson (bytes : Bytes) : (depth : Nat) → Item → Except ReadFault Json
  | 0, _ => .error (.layout .endless)
  | depth + 1, item =>
    match item.kind with
    | .null => .ok .null
    | .bool => .ok (.bool (item.word bytes != 0))
    | .number .int | .indirect .int =>
      .ok (Json.ofInt (Bytes.intOfWord item.width.bytes (item.word bytes)))
    | .number .uint | .indirect .uint => .ok (Json.ofInt (item.word bytes))
    | .number .float | .indirect .float => item.double bytes
    | .string => .ok (.string (item.text bytes))
    | .key => .ok (.string (keyText bytes item.address))
    | .blob =>
      if (item.content? bytes).isSome then
        .error (.shape (.kind "byte array" "any valid JSON value"))
      else .error (.layout .invalidIndex)
    | .map => do
      let keys ← (item.keys bytes).mapError .layout
      let count := item.count bytes
      let members ← collect (fun index =>
        -- A value without a place is null, but a key must have one.
        match keys.get? bytes index with
        | none => .error (.shape (keyMismatch index))
        | some key =>
          match item.get? bytes count index with
          | none => .ok (key, .null)
          | some value => (toJson bytes depth value).map (key, ·)) count 0 []
      return Json.ofMembers members
    | .vector | .numbers _ | .keys | .strings | .fixed _ _ | .bools => do
      let count := item.count bytes
      let items ← collect (fun index =>
        match item.get? bytes count index with
        | none => .ok .null
        | some value => toJson bytes depth value) count 0 []
      return .array items

end Item

def toJson (bytes : Bytes) : Except ReadFault Json := do
  let root ← (Item.root bytes).mapError .layout
  root.toJson bytes (bytes.size + 1)

end JobDesk.Flexbuffer
