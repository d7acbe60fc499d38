import JobDesk.Bytes
import JobDesk.Text.Alphanumeric
import JobDesk.Text.Blank

/-!
# Environment — variables and files of variables

A file gives a variable a line, `KEY=value`.  Values can be quoted: between single quotes everything
stands for itself, between double quotes and outside of quotes a backslash escapes the next
character and a dollar sign stands for the value of the variable named after it.  A file never
changes a variable that is set, and what follows its first malformed line is not read; a line that
is no text is malformed.
-/

namespace JobDesk

structure Environment where
  entries : List (String × String) := []
  deriving Inhabited

namespace Environment

def get? (env : Environment) (name : String) : Option String :=
  env.entries.lookup name

def setMissing (env : Environment) (name value : String) : Environment :=
  match env.get? name with
  | some _ => env
  | none => ⟨env.entries ++ [(name, value)]⟩

/-! ## 1. Values -/

inductive Place where
  | bare
  | singleQuoted
  | doubleQuoted
  /-- Behind a backslash. -/
  | escaped (isQuoted : Bool)
  /-- Behind a dollar sign and the letters of a name. -/
  | name (isQuoted : Bool) (letters : String)
  /-- Behind a dollar sign, a brace and the letters of a name. -/
  | bracedName (isQuoted : Bool) (letters : String)
  /-- Behind the value, where only blanks or a comment may follow. -/
  | behind
  | comment
  deriving DecidableEq

structure ValueReader where
  read : String := ""
  place : Place := .bare

def resume (isQuoted : Bool) : Place :=
  if isQuoted then .doubleQuoted else .bare

def escape? : Char → Option Char
  | '\\' => some '\\'
  | '\'' => some '\''
  | '"' => some '"'
  | '$' => some '$'
  | ' ' => some ' '
  | 'n' => some '\n'
  | _ => none

/-- A value with one more character read; `none` when the value is malformed. -/
def step (env : Environment) (r : ValueReader) (c : Char) : Option ValueReader :=
  match r.place with
  | .comment => some r
  | .behind =>
    if c = ' ' ∨ c = '\t' then some r
    else if c = '#' then some { r with place := .comment }
    else none
  | .escaped isQuoted => (escape? c).map fun c => ⟨r.read.push c, resume isQuoted⟩
  | .singleQuoted =>
    if c = '\'' then some { r with place := .bare } else some { r with read := r.read.push c }
  | .name isQuoted letters =>
    if Text.isAlphanumeric c then some { r with place := .name isQuoted (letters.push c) }
    else if c = '\x7b' ∧ letters = "" then some { r with place := .bracedName isQuoted "" }
    else
      -- What ends a name stands for itself, even a quote; only a dollar sign does not.
      let read := r.read ++ (env.get? letters).getD ""
      if c = '$' then some ⟨read, .name isQuoted ""⟩ else some ⟨read.push c, resume isQuoted⟩
  | .bracedName isQuoted letters =>
    if c = '\x7d' then some ⟨r.read ++ (env.get? letters).getD "", resume isQuoted⟩
    else some { r with place := .bracedName isQuoted (letters.push c) }
  | .doubleQuoted =>
    if c = '$' then some { r with place := .name true "" }
    else if c = '"' then some { r with place := .bare }
    else if c = '\\' then some { r with place := .escaped true }
    else some { r with read := r.read.push c }
  | .bare =>
    if c = '$' then some { r with place := .name false "" }
    else if c = '\'' then some { r with place := .singleQuoted }
    else if c = '"' then some { r with place := .doubleQuoted }
    else if c = '\\' then some { r with place := .escaped false }
    else if c = ' ' ∨ c = '\t' then some { r with place := .behind }
    else some { r with read := r.read.push c }

def readValue? (env : Environment) (text : List Char) : Option String :=
  match text.foldlM (step env) {} with
  | none => none
  | some r =>
    match r.place with
    | .singleQuoted | .doubleQuoted | .bracedName _ _ | .name true _ | .escaped true => none
    | .name false letters => some (r.read ++ (env.get? letters).getD "")
    | _ => some r.read

/-! ## 2. Lines -/

def isKeyStart (c : Char) : Bool := c.isAlpha || c == '_'

def isKeyPart (c : Char) : Bool := c.isAlphanum || c == '_' || c == '.'

def skipBlanks (text : List Char) : List Char := text.dropWhile Text.isBlank

def readKey? (text : List Char) : Option (String × List Char) :=
  match text with
  | c :: _ =>
    if isKeyStart c then
      some (String.ofList (text.takeWhile isKeyPart), skipBlanks (text.dropWhile isKeyPart))
    else none
  | [] => none

/-- A key and the text after the equals sign; the key may stand behind the word `export`. -/
def readAssignment? (text : List Char) : Option (String × List Char) := do
  let (key, text) ← readKey? text
  match text with
  | '=' :: text => return (key, skipBlanks text)
  | text =>
    if key = "export" then
      match ← readKey? text with
      | (key, '=' :: text) => return (key, skipBlanks text)
      | _ => none
    else none

def isVoid (text : List Char) : Bool := text.isEmpty || text.head? == some '#'

def readLine? (env : Environment) (line : List Char) : Option Environment :=
  let line := skipBlanks (Text.trimEnd line)
  if isVoid line then some env
  else do
    let (key, text) ← readAssignment? line
    let value ← if isVoid text then some "" else env.readValue? text
    return env.setMissing key value

/-! ## 3. Files -/

def readLines (env : Environment) : List (List Char) → Environment
  | [] => env
  | line :: rest =>
    match env.readLine? line with
    | some env => readLines env rest
    | none => env

def textLines : List (List UInt8) → List (List Char)
  | [] => []
  | line :: rest =>
    match Bytes.toText? line.toArray with
    | some text => text.toList :: textLines rest
    | none => []

def withFile (env : Environment) (content : Bytes) : Environment :=
  env.readLines (textLines (content.toList.splitOn 0x0a))

end Environment

end JobDesk
