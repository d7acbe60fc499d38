import JobDesk.Text.Pattern.Escape

/-!
# Brackets of patterns — sets of characters

Brackets hold characters, ranges, escapes, named sets and other brackets, which together make a set.
Two signs between such sets intersect them or take one from the other.  A caret behind the opening
bracket takes all characters that are not in the set.
-/

namespace JobDesk.Text.Pattern

/-! ## 1. Blanks -/

def skipSpaced : (inComment : Bool) → List Char → List Char
  | _, [] => []
  | true, c :: rest => skipSpaced (c != '\n') rest
  | false, c :: rest =>
    if isBlank c then skipSpaced false rest
    else if c = '#' then skipSpaced true rest
    else c :: rest

def skip (options : Options) (text : List Char) : List Char :=
  if options.spaced then skipSpaced false text else text

/-! ## 2. Named sets -/

def span (first last : Char) : CharSet := .range first last

def named? (name : String) : Option CharSet :=
  let letters := CharSet.either (span 'a' 'z') (span 'A' 'Z')
  if name = "alpha" then some letters
  else if name = "lower" then some (span 'a' 'z')
  else if name = "upper" then some (span 'A' 'Z')
  else if name = "digit" then some (span '0' '9')
  else if name = "alnum" then some (.either letters (span '0' '9'))
  else if name = "word" then some (.either (.either letters (span '0' '9')) (.single '_'))
  else if name = "xdigit" then
    some (.either (span '0' '9') (.either (span 'a' 'f') (span 'A' 'F')))
  else if name = "space" then some (.either (span '\t' '\r') (.single ' '))
  else if name = "blank" then some (.either (.single '\t') (.single ' '))
  else if name = "ascii" then some (span '\x00' '\x7f')
  else if name = "cntrl" then some (.either (span '\x00' '\x1f') (.single '\x7f'))
  else if name = "graph" then some (span '!' '~')
  else if name = "print" then some (span ' ' '~')
  else if name = "punct" then some (.without (span '!' '~') (.either letters (span '0' '9')))
  else none

/-- A named set between a bracket with a colon and a colon with a bracket; a caret before the name
takes all other characters. -/
def readNamed? (text : List Char) : Option (CharSet × List Char) :=
  match text with
  | '[' :: ':' :: text =>
    let isNegated := text.head? == some '^'
    let text := if isNegated then text.drop 1 else text
    let name := text.takeWhile (· != ':')
    match text.drop name.length with
    | ':' :: ']' :: rest =>
      (named? (String.ofList name)).map fun set => (if isNegated then .other set else set, rest)
    | _ => none
  | _ => none

/-! ## 3. Items -/

def readSetAtom? (options : Options) : List Char → Option (Atom × List Char)
  | '\\' :: text => readEscape? options text
  | c :: text => some (.character c, text)
  | [] => none

def Atom.set? : Atom → Option CharSet
  | .character c => some (.single c)
  | .set characters => some characters
  | .edge _ => none

/-- A character, range or escape in brackets.  A hyphen before a bracket or hyphen makes no
range. -/
def readItem? (options : Options) (text : List Char) : Option (CharSet × List Char) := do
  let (first, text) ← readSetAtom? options text
  match skip options text with
  | [] => none
  | '-' :: behind =>
    let next := (skip options behind).head?
    if next = some ']' ∨ next = some '-' then return (← first.set?, '-' :: behind)
    else
      match first, ← readSetAtom? options (skip options behind) with
      | .character first, (.character last, text) =>
        if first ≤ last then return (.range first last, text) else none
      | _, _ => none
  | text => return (← first.set?, text)

/-! ## 4. Brackets -/

inductive SetSign where
  | both
  | without
  | symmetric
  deriving DecidableEq, Inhabited

def SetSign.apply : SetSign → CharSet → CharSet → CharSet
  | both => .both
  | without => .without
  | symmetric => .symmetric

structure OpenBracket where
  isNegated : Bool
  /-- The set before the last two signs. -/
  before : Option (SetSign × CharSet) := none
  /-- The set behind them. -/
  current : CharSet := .nothing
  deriving DecidableEq, Inhabited

namespace OpenBracket

def add (bracket : OpenBracket) (set : CharSet) : OpenBracket :=
  { bracket with current := .either bracket.current set }

def whole (options : Options) (bracket : OpenBracket) : CharSet :=
  match bracket.before with
  | none => bracket.current
  | some (sign, before) => sign.apply (options.apply before) (options.apply bracket.current)

def close (options : Options) (bracket : OpenBracket) : CharSet :=
  let set := options.apply (bracket.whole options)
  if bracket.isNegated then .other set else set

def sign (options : Options) (bracket : OpenBracket) (sign : SetSign) : OpenBracket :=
  { bracket with before := some (sign, bracket.whole options), current := .nothing }

end OpenBracket

/-- What stands behind an opening bracket up to the first item; a closing bracket is an item
there. -/
def readOpening? (options : Options) (text : List Char) : Option (OpenBracket × List Char) := do
  let text := skip options text
  let isNegated := text.head? == some '^'
  let text := if isNegated then skip options (text.drop 1) else text
  -- Hyphens at the beginning stand for themselves.
  let isHyphen := text.head? == some '-'
  let text := if isHyphen then skip options (text.dropWhile (· == '-')) else text
  let bracket : OpenBracket := { isNegated := isNegated }
  let bracket := if isHyphen then bracket.add (.single '-') else bracket
  match text with
  | [] => none
  | ']' :: rest =>
    if isHyphen then return (bracket, text) else return (bracket.add (.single ']'), rest)
  | text => return (bracket, text)

/-- The set of a bracket and of those it stands in; each round takes a character or more. -/
def readBracket? (options : Options) :
    (rounds : Nat) → (outer : List OpenBracket) → OpenBracket → List Char →
      Option (CharSet × List Char)
  | 0, _, _, _ => none
  | rounds + 1, outer, bracket, text =>
    match skip options text with
    | [] => none
    | ']' :: text =>
      match outer with
      | [] => some (bracket.close options, text)
      | parent :: outer =>
        readBracket? options rounds outer (parent.add (bracket.close options)) text
    | '&' :: '&' :: text => readBracket? options rounds outer (bracket.sign options .both) text
    | '-' :: '-' :: text => readBracket? options rounds outer (bracket.sign options .without) text
    | '~' :: '~' :: text =>
      readBracket? options rounds outer (bracket.sign options .symmetric) text
    | '[' :: text =>
      match readNamed? ('[' :: text) with
      | some (set, text) => readBracket? options rounds outer (bracket.add set) text
      | none =>
        match readOpening? options text with
        | some (inner, text) => readBracket? options rounds (bracket :: outer) inner text
        | none => none
    | text =>
      match readItem? options text with
      | some (set, text) => readBracket? options rounds outer (bracket.add set) text
      | none => none

def readSet? (options : Options) (text : List Char) : Option (CharSet × List Char) := do
  let (bracket, text) ← readOpening? options text
  readBracket? options (text.length + 1) [] bracket text

end JobDesk.Text.Pattern
