import JobDesk.Json.Scan

/-!
# Json reading — from text to values

Arrays and objects may stand in each other up to a depth of 127.  A list of items is read in rounds,
and the text at its start bounds their number, since every item takes at least one character.
-/

namespace JobDesk.Json

/-! ## 1. Lists of items -/

/-- The items after a separator, up to and with the closing bracket; `read` holds those before, the
last first. -/
def scanItemsFrom {α : Type} (item : Scanner α) (close : Char) :
    (rounds : List Char) → (read : List α) → Scanner (List α)
  | [], _, _ => .error .malformed
  | _ :: rounds, read, text => do
    let (value, text) ← item (skipBlanks text)
    match skipBlanks text with
    | c :: text =>
      if c = ',' then scanItemsFrom item close rounds (value :: read) text
      else if c = close then .ok ((value :: read).reverse, text)
      else .error .malformed
    | [] => .error .malformed

def scanItems {α : Type} (item : Scanner α) (close : Char) : Scanner (List α) := fun text =>
  match skipBlanks text with
  | c :: rest => if c = close then .ok ([], rest) else scanItemsFrom item close text [] (c :: rest)
  | [] => .error .malformed

def scanMember {α : Type} (value : Scanner α) : Scanner (String × α) := fun text => do
  let (key, text) ← scanString text
  match skipBlanks text with
  | ':' :: text =>
    let (value, text) ← value (skipBlanks text)
    return ((key, value), text)
  | _ => .error .malformed

/-! ## 2. Values -/

def depthLimit : Nat := 128

/-- A value that starts at the first character; `depth` is what is left of the nesting limit. -/
def scanValue : (depth : Nat) → Scanner Json
  | 0, _ => .error .malformed
  | depth + 1, text =>
    match text with
    | 'n' :: text => (scanWord ['u', 'l', 'l'] text).map fun (_, rest) => (.null, rest)
    | 't' :: text => (scanWord ['r', 'u', 'e'] text).map fun (_, rest) => (.bool true, rest)
    | 'f' :: text => (scanWord ['a', 'l', 's', 'e'] text).map fun (_, rest) => (.bool false, rest)
    | '"' :: text => (scanStringFrom "" text).map fun (s, rest) => (.string s, rest)
    | '[' :: text =>
      if depth = 0 then .error .malformed
      else (scanItems (scanValue depth) ']' text).map fun (items, rest) => (.array items, rest)
    | '{' :: text =>
      if depth = 0 then .error .malformed
      else (scanItems (scanMember (scanValue depth)) '}' text).map fun (members, rest) =>
        (ofMembers members, rest)
    | text => scanNumber text

def read (text : String) : Except Fault Json := do
  let (value, rest) ← scanValue depthLimit (skipBlanks text.toList)
  scanEnd rest
  return value

def read? (text : String) : Option Json :=
  (read text).toOption

/-! ## 3. Values that nobody looks at -/

def skipNumber (text : List Char) : Except Fault (Unit × List Char) :=
  (scanNumberForm text).map fun (_, rest) => ((), rest)

/-- A value that nobody looks at: it may be nested to any depth, which its text bounds. -/
def skipValue : (depth : List Char) → Scanner Unit
  | [], _ => .error .malformed
  | _ :: depth, text =>
    match text with
    | 'n' :: text => scanWord ['u', 'l', 'l'] text
    | 't' :: text => scanWord ['r', 'u', 'e'] text
    | 'f' :: text => scanWord ['a', 'l', 's', 'e'] text
    | '"' :: text => (skipStringFrom text).map fun rest => ((), rest)
    | '[' :: text => (scanItems (skipValue depth) ']' text).map fun (_, rest) => ((), rest)
    | '{' :: text =>
      let member : Scanner Unit := fun text =>
        match text with
        | '"' :: text => do
          match skipBlanks (← skipStringFrom text) with
          | ':' :: text => skipValue depth (skipBlanks text)
          | _ => .error .malformed
        | _ => .error .malformed
      (scanItems member '}' text).map fun (_, rest) => ((), rest)
    | text => skipNumber text

end JobDesk.Json
