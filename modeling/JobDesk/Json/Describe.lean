import JobDesk.Json.Basic
import JobDesk.Decimal.Style
import JobDesk.Mismatch
import JobDesk.Text.Quoted

/-!
# Json descriptions — how a mismatch names a value

A mismatch names the value that was found.  Readers of JSON text and readers of buffers have
different words for null and different styles for doubles.
-/

namespace JobDesk.Json

structure Wording where
  null : String
  doubles : Decimal.Style

namespace Wording

def ofText : Wording := ⟨"null", .double⟩

def ofBuffer : Wording := ⟨"unit value", .full⟩

def describe (wording : Wording) : Json → String
  | .null => wording.null
  | .bool value => "boolean " ++ Mismatch.quoteName (toString value)
  | .integer value => "integer " ++ Mismatch.quoteName (toString value.val)
  | .float value => "floating point " ++ Mismatch.quoteName (Decimal.text wording.doubles value.val)
  | .string value => "string " ++ Text.quoted value
  | .array _ => "sequence"
  | .object _ => "map"

def mismatch (wording : Wording) (value : Json) (want : String) : Mismatch :=
  .kind (wording.describe value) want

/-- The integer that a value is, from `low` up to, but without, `high`; `name` is the type asked
for. -/
def integer (wording : Wording) (name : String) (low high : Int) (value : Json) :
    Except Mismatch Int :=
  match value with
  | .integer n =>
    if low ≤ n.val ∧ n.val < high then .ok n.val
    else .error (.range (wording.describe value) name)
  | _ => .error (wording.mismatch value name)

def string (wording : Wording) : Json → Except Mismatch String
  | .string s => .ok s
  | value => .error (wording.mismatch value "a string")

def boolean (wording : Wording) : Json → Except Mismatch Bool
  | .bool b => .ok b
  | value => .error (wording.mismatch value "a boolean")

end Wording

end JobDesk.Json
