import JobDesk.Text.Pattern.Bracket

/-!
# Written patterns — the pattern that a text stands for

A pattern is written from left to right.  Groups and their alternatives are held open until they
are closed; a count counts what stands directly before it.  A text with an open group, a count of
nothing or an unknown escape stands for no pattern.
-/

namespace JobDesk.Text.Pattern

/-! ## 1. Open groups -/

structure OpenGroup where
  options : Options := {}
  /-- The alternatives that have been read, the latest first. -/
  branches : List Pattern := []
  /-- What has been read of the last alternative, the latest first.  Options that were set in it are
  no pattern. -/
  items : List (Option Pattern) := []
  deriving Inhabited

/-- A pattern being read: the innermost open group, those around it, and the names of groups. -/
structure Reader where
  group : OpenGroup := {}
  outer : List OpenGroup := []
  names : List (List Char) := []
  deriving Inhabited

namespace OpenGroup

def add (group : OpenGroup) (p : Pattern) : OpenGroup :=
  { group with items := some p :: group.items }

def branch (group : OpenGroup) : Pattern :=
  (group.items.reverse.filterMap id).foldr .seq .empty

def whole (group : OpenGroup) : Pattern :=
  group.branches.foldl (fun made branch => .choice branch made) group.branch

def split (group : OpenGroup) : OpenGroup :=
  { group with branches := group.branch :: group.branches, items := [] }

def repeat? (group : OpenGroup) (least : Nat) (most : Option Nat) : Option OpenGroup :=
  match group.items with
  | some p :: items => some { group with items := some (.repeated p least most) :: items }
  | _ => none

end OpenGroup

/-! ## 2. Counts -/

/-- What stands behind a question mark that follows a count; it says which match is taken, and not
whether there is one. -/
def skipLazy (text : List Char) : List Char :=
  match text with
  | '?' :: rest => rest
  | text => text

def readCount? (text : List Char) : Option (Nat × List Char) := do
  let text := text.dropWhile isBlank
  let digits := text.takeWhile isDigit
  let count ← (readDigits? digits).filter (· < 0x100000000)
  return (count, (text.drop digits.length).dropWhile isBlank)

def readCounts? (options : Options) (text : List Char) :
    Option (Nat × Option Nat × List Char) := do
  let (least, text) ← readCount? (skip options text)
  match text with
  | '\x7d' :: text => return (least, some least, text)
  | ',' :: text =>
    match skip options text with
    | '\x7d' :: text => return (least, none, text)
    | text =>
      match ← readCount? text with
      | (most, '\x7d' :: text) => if least ≤ most then return (least, some most, text) else none
      | _ => none
  | _ => none

/-! ## 3. Groups -/

/-- The options after a letter for one of them; some letters change nothing about what matches. -/
def Options.set? (options : Options) (value : Bool) : Char → Option Options
  | 'i' => some { options with anyCase := value }
  | 'm' => some { options with lines := value }
  | 's' => some { options with pointIsAll := value }
  | 'x' => some { options with spaced := value }
  | 'U' | 'u' | 'R' => some options
  | _ => none

/-- Reads letters for options up to the colon or parenthesis behind them; `seen` holds those before,
and behind a hyphen they are taken back. -/
def readOptions? (options : Options) : (seen : List Char) → List Char →
    Option (Options × List Char × List Char)
  | _, [] => none
  | seen, c :: rest =>
    if c = ':' ∨ c = ')' then
      if seen.head? = some '-' then none else some (options, seen, c :: rest)
    else if seen.contains c then none
    else if c = '-' then readOptions? options ('-' :: seen) rest
    else
      match options.set? (!seen.contains '-') c with
      | some options => readOptions? options (c :: seen) rest
      | none => none

def isGroupName (name : List Char) : Bool :=
  match name with
  | [] => false
  | c :: rest =>
    let isFirst (c : Char) : Bool := c == '_' || (isAlphanumeric c && !isDigit c)
    isFirst c && rest.all fun c => isFirst c || isDigit c || c == '.' || c == '[' || c == ']'

namespace Reader

def openGroup (r : Reader) (options : Options) : Reader :=
  { r with group := { options := options }, outer := r.group :: r.outer }

def openNamed? (r : Reader) (text : List Char) : Option (Reader × List Char) :=
  match text.span (· != '>') with
  | (name, _ :: rest) =>
    if isGroupName name ∧ !r.names.contains name then
      some ({ r.openGroup r.group.options with names := name :: r.names }, rest)
    else none
  | (_, []) => none

/-- What stands behind a parenthesis and a question mark: options for a group or for what
follows. -/
def openWithOptions? (r : Reader) (text : List Char) : Option (Reader × List Char) := do
  let (options, seen, rest) ← readOptions? r.group.options [] text
  match rest with
  | ':' :: rest => return (r.openGroup options, rest)
  | _ :: rest =>
    if seen.isEmpty then none
    else return ({ r with group.options := options, group.items := none :: r.group.items }, rest)
  | [] => none

def open? (r : Reader) (text : List Char) : Option (Reader × List Char) :=
  match skip r.group.options text with
  | '?' :: '=' :: _ | '?' :: '!' :: _ | '?' :: '<' :: '=' :: _ | '?' :: '<' :: '!' :: _ => none
  | '?' :: 'P' :: '<' :: text | '?' :: '<' :: text => r.openNamed? text
  | '?' :: text => r.openWithOptions? text
  | text => some (r.openGroup r.group.options, text)

def close? (r : Reader) : Option Reader :=
  match r.outer with
  | [] => none
  | parent :: outer => some { r with group := parent.add r.group.whole, outer := outer }

/-! ## 4. Patterns -/

def add (r : Reader) (p : Pattern) : Reader := { r with group := r.group.add p }

def addAtom (r : Reader) : Atom → Reader
  | .character c => r.add (.one (r.group.options.apply (.single c)))
  | .set set => r.add (.one set)
  | .edge edge => r.add (.place edge)

def repeat? (r : Reader) (least : Nat) (most : Option Nat) : Option Reader :=
  (r.group.repeat? least most).map fun group => { r with group := group }

def step? (r : Reader) (c : Char) (text : List Char) : Option (Reader × List Char) :=
  let options := r.group.options
  if c = '(' then r.open? text
  else if c = ')' then r.close?.map fun r => (r, text)
  else if c = '|' then some ({ r with group := r.group.split }, text)
  else if c = '[' then (readSet? options text).map fun (set, text) => (r.add (.one set), text)
  else if c = '*' then (r.repeat? 0 none).map fun r => (r, skipLazy text)
  else if c = '+' then (r.repeat? 1 none).map fun r => (r, skipLazy text)
  else if c = '?' then (r.repeat? 0 (some 1)).map fun r => (r, skipLazy text)
  else if c = '\x7b' then do
    let (least, most, text) ← readCounts? options text
    return (← r.repeat? least most, skipLazy (skip options text))
  else if c = '\\' then
    (readEscape? options text).map fun (atom, text) => (r.addAtom atom, text)
  else if c = '.' then
    some (r.add (.one (if options.pointIsAll then .all else .other (.single '\n'))), text)
  else if c = '^' then
    some (r.add (.place (if options.lines then .lineStart else .textStart)), text)
  else if c = '$' then some (r.add (.place (if options.lines then .lineEnd else .textEnd)), text)
  else some (r.addAtom (.character c), text)

def run? : (rounds : Nat) → Reader → List Char → Option Reader
  | 0, _, _ => none
  | rounds + 1, r, text =>
    match skip r.group.options text with
    | [] => some r
    | c :: text =>
      match r.step? c text with
      | some (r, text) => run? rounds r text
      | none => none

end Reader

def read? (text : List Char) : Option Pattern := do
  let r ← Reader.run? (text.length + 1) {} text
  if r.outer.isEmpty then return r.group.whole else none

end JobDesk.Text.Pattern
