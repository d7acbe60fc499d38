import JobDesk.Json.Read
import JobDesk.Json.Describe

/-!
# Json shapes — text read as a record

A record is read field by field while its text is scanned, so of several faults the first in the
text is reported, and text after a mismatch is not looked at.  A record is written as an object, in
which unknown members are passed over, or as an array of its fields.
-/

namespace JobDesk.Json

/-! ## 1. Single values -/

/-- A value to be judged: arrays and objects are known by their first character. -/
def scanKind : Scanner Json
  | '[' :: text => .ok (.array [], text)
  | '\x7b' :: text => .ok (.object [], text)
  | text => scanValue 1 text

def scanJudged {α : Type} (judge : Json → Except Mismatch α) : Scanner α := fun text => do
  let (value, text) ← scanKind text
  match judge value with
  | .ok value => return (value, text)
  | .error cause => throw (.mismatch cause)

def scanInt64 : Scanner Int64 :=
  scanJudged fun value =>
    (Wording.ofText.integer "i64" (-0x8000000000000000) 0x8000000000000000 value).map Int64.ofInt

def scanInt16 : Scanner Int16 :=
  scanJudged fun value => (Wording.ofText.integer "i16" (-0x8000) 0x8000 value).map Int16.ofInt

def scanBool : Scanner Bool :=
  scanJudged Wording.ofText.boolean

def scanText : Scanner String :=
  scanJudged Wording.ofText.string

/-! ## 2. Records -/

/-- A field of a record that is being read into a draft `δ`; one that may be missing is optional. -/
structure RecordField (δ : Type) where
  name : String
  isOptional : Bool
  isRead : δ → Bool
  scan : δ → Scanner δ

def RecordField.of {δ α : Type} (name : String) (isOptional : Bool) (read : Scanner α)
    (get : δ → Option α) (put : δ → α → δ) : RecordField δ where
  name := name
  isOptional := isOptional
  isRead draft := (get draft).isSome
  scan draft text := (read text).map fun (value, rest) => (put draft value, rest)

def scanFieldValue {α : Type} (value : Scanner α) : Scanner α := fun text =>
  match skipBlanks text with
  | ':' :: text => value (skipBlanks text)
  | _ => .error .malformed

def scanField {δ : Type} (fields : List (RecordField δ)) (draft : δ) : Scanner δ := fun text => do
  let (key, text) ← scanString text
  match fields.find? (·.name == key) with
  | some field =>
    -- A field given twice is refused before its second value is looked at.
    if field.isRead draft then throw (.mismatch (.duplicate key))
    scanFieldValue (field.scan draft) text
  | none =>
    let (_, text) ← scanFieldValue (skipValue text) text
    return (draft, text)

def scanFieldsFrom {δ : Type} (fields : List (RecordField δ)) :
    (rounds : List Char) → δ → Scanner δ
  | [], _, _ => .error .malformed
  | _ :: rounds, draft, text => do
    let (draft, text) ← scanField fields draft (skipBlanks text)
    match skipBlanks text with
    | ',' :: text => scanFieldsFrom fields rounds draft text
    | '\x7d' :: text => return (draft, text)
    | _ => throw .malformed

/-- The items of an array that stands for a record: as many as there are fields, and no more. -/
def scanItemsAsFields {δ : Type} (want : String) :
    (fields : List (RecordField δ)) → (count : Nat) → δ → Scanner δ
  | [], _, draft, text =>
    match skipBlanks text with
    | ']' :: text => .ok (draft, text)
    | _ => .error .malformed
  | field :: fields, count, draft, text => do
    match skipBlanks text with
    | ']' :: text =>
      if field.isOptional then scanItemsAsFields want fields (count + 1) draft (']' :: text)
      else throw (.mismatch (.length count want))
    | c :: text =>
      let item ←
        if count = 0 then pure (c :: text)
        else if c = ',' then pure (skipBlanks text)
        else throw .malformed
      let (draft, text) ← field.scan draft item
      scanItemsAsFields want fields (count + 1) draft text
    | [] => throw .malformed

def scanDraft {δ : Type} (name : String) (fields : List (RecordField δ)) (empty : δ) : Scanner δ
  | '\x7b' :: text =>
    match skipBlanks text with
    | '\x7d' :: text => .ok (empty, text)
    | rest => scanFieldsFrom fields text empty rest
  | '[' :: text =>
    scanItemsAsFields (wantElements ("struct " ++ name) fields.length) fields 0 empty text
  | text =>
    scanJudged (fun value => .error (Wording.ofText.mismatch value ("struct " ++ name))) text

def need {α : Type} (field : String) : Option α → Except Mismatch α
  | some value => .ok value
  | none => .error (.missing field)

def readRecord {δ α : Type} (name : String) (fields : List (RecordField δ)) (empty : δ)
    (finish : δ → Except Mismatch α) (text : String) : Except Fault α := do
  let (draft, rest) ← scanDraft name fields empty (skipBlanks text.toList)
  let record ← (finish draft).mapError .mismatch
  scanEnd rest
  return record

/-! ## 3. Names -/

def scanName {α : Type} (names : List String) (ofName? : String → Option α) : Scanner α :=
  scanJudged fun value =>
    match value with
    | .string name => (ofName? name).elim (.error (.unknownName name names)) .ok
    | value => .error (Wording.ofText.mismatch value "variant identifier")

def scanVariant {α : Type} (names : List String) (ofName? : String → Option α) : Scanner α
  | '"' :: text => scanName names ofName? ('"' :: text)
  | '\x7b' :: text => do
    let (value, text) ← scanName names ofName? (skipBlanks text)
    let unit : Scanner Unit := scanJudged fun value =>
      match value with
      | .null => .ok ()
      | value => .error (Wording.ofText.mismatch value "unit")
    let (_, text) ← scanFieldValue unit text
    match skipBlanks text with
    | '\x7d' :: text => return (value, text)
    | _ => throw .malformed
  | _ => .error .malformed

def readVariant {α : Type} (names : List String) (ofName? : String → Option α) (text : String) :
    Except Fault α := do
  let (value, rest) ← scanVariant names ofName? (skipBlanks text.toList)
  scanEnd rest
  return value

end JobDesk.Json
