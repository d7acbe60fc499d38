import JobDesk.Json.Describe
import JobDesk.Payload.Basic

/-!
# SearchConfig — the usual search config as a record

Most configs say what to look for, how many results to give, which tags to look under and whether
case matters.  A payload is read as such a record member by member in key order, and the first
mismatch is reported; missing members are noticed last.  An array is taken as the fields in their
order.
-/

namespace JobDesk

structure SearchConfig where
  query : String
  maxNumResults : UInt32
  tags : List String
  ignoreCase : Option Bool
  deriving DecidableEq, Inhabited

namespace SearchConfig

structure Draft where
  query : Option String := none
  maxNumResults : Option UInt32 := none
  tags : Option (List String) := none
  ignoreCase : Option Bool := none

def wording : Json.Wording := .ofBuffer

def count (value : Json) : Except Mismatch UInt32 :=
  (wording.integer "u32" 0 (0x100000000) value).map fun n => UInt32.ofNat n.toNat

def texts : Json → Except Mismatch (List String)
  | .array items => go items []
  | value => .error (wording.mismatch value "a sequence")
where
  /-- The texts of the items, after those already read, the last first. -/
  go : List Json → List String → Except Mismatch (List String)
    | [], read => .ok read.reverse
    | item :: rest, read => do go rest ((← wording.string item) :: read)

def flag : Json → Except Mismatch (Option Bool)
  | .null => .ok none
  | value => (wording.boolean value).map some

def Draft.finish (draft : Draft) : Except Mismatch SearchConfig := do
  let some query := draft.query | throw (.missing "query")
  let some maxNumResults := draft.maxNumResults | throw (.missing "max_num_results")
  let some tags := draft.tags | throw (.missing "tags")
  return ⟨query, maxNumResults, tags, draft.ignoreCase⟩

/-- A record with one more member read; unknown members are passed over. -/
def Draft.read (draft : Draft) (name : String) (value : Json) : Except Mismatch Draft := do
  if name = "query" then return { draft with query := some (← wording.string value) }
  else if name = "max_num_results" then
    return { draft with maxNumResults := some (← count value) }
  else if name = "tags" then return { draft with tags := some (← texts value) }
  else if name = "ignore_case" then return { draft with ignoreCase := ← flag value }
  else return draft

def Draft.readAll (draft : Draft) : List (String × Json) → Except Mismatch Draft
  | [] => .ok draft
  | (name, value) :: rest => do (← draft.read name value).readAll rest

def fieldNames : List String := ["query", "max_num_results", "tags", "ignore_case"]

def ofJson : Json → Except Mismatch SearchConfig
  | .object members => do (← Draft.readAll {} members).finish
  | .array items => do
    let draft ← Draft.readAll {} (fieldNames.zip items)
    if items.length < fieldNames.length then
      throw (.length items.length (wantElements "struct SearchConfig" fieldNames.length))
    draft.finish
  | value => .error (wording.mismatch value "struct SearchConfig")

def decode (payload : Bytes) : Except Flexbuffer.ReadFault SearchConfig := do
  let value ← Payload.decode payload
  (ofJson value).mapError .shape

end SearchConfig

end JobDesk
