import JobDesk.Text.Pattern.Basic
import JobDesk.Text.Radix

/-!
# Escapes of patterns — what stands behind a backslash

A backslash makes a mark stand for itself.  Before letters it stands for control characters, for
characters by their code points, for classes of characters, and for edges.  What is not listed is
refused, so that no pattern means something by chance.
-/

namespace JobDesk.Text.Pattern

/-! ## 1. Options -/

structure Options where
  anyCase : Bool := false
  /-- Lines, and not the whole text, have a start and an end. -/
  lines : Bool := false
  /-- A point stands for the end of a line, too. -/
  pointIsAll : Bool := false
  /-- Blanks and comments are passed over. -/
  spaced : Bool := false
  deriving DecidableEq, Inhabited

def Options.apply (options : Options) (set : CharSet) : CharSet :=
  if options.anyCase then .anyCase set else set

/-! ## 2. Atoms -/

inductive Atom where
  | character (c : Char)
  | set (set : CharSet)
  | edge (edge : Edge)
  deriving DecidableEq, Inhabited

def isSign (c : Char) : Bool := "\\.+*?()|[]\x7b\x7d^$#&-~".toList.contains c

def isEscapable (c : Char) : Bool :=
  isSign c || (c.toNat < 0x80 && !c.isAlphanum && c != '<' && c != '>')

def control? : Char → Option Char
  | 'a' => some '\x07'
  | 'f' => some '\x0c'
  | 't' => some '\t'
  | 'n' => some '\n'
  | 'r' => some '\r'
  | 'v' => some '\x0b'
  | _ => none

def edge? : Char → Option Edge
  | 'A' => some .textStart
  | 'z' => some .textEnd
  | 'B' => some .noWordEdge
  | '<' => some .wordStart
  | '>' => some .wordEnd
  | _ => none

/-- The class that a letter stands for; a capital letter stands for all other characters. -/
def class? : Char → Option CharSet
  | 'd' => some .digit
  | 's' => some .blank
  | 'w' => some .word
  | 'D' => some (.other .digit)
  | 'S' => some (.other .blank)
  | 'W' => some (.other .word)
  | _ => none

def codeLength? : Char → Option Nat
  | 'x' => some 2
  | 'u' => some 4
  | 'U' => some 8
  | _ => none

def splitBrace (text : List Char) : Option (List Char × List Char) :=
  match text.span (· != '\x7d') with
  | (inside, _ :: rest) => some (inside, rest)
  | (_, []) => none

def readCode? (digits : List Char) : Option Char := do
  if digits.isEmpty then none
  let code ← readRadix? 16 digits
  if code < 0xd800 ∨ (0xdfff < code ∧ code < 0x110000) then return Char.ofNat code else none

def readHex? (length : Nat) (text : List Char) : Option (Char × List Char) :=
  match text with
  | '\x7b' :: text => do
    let (digits, rest) ← splitBrace text
    return (← readCode? digits, rest)
  | text =>
    if text.length < length then none
    else (readCode? (text.take length)).map fun c => (c, text.drop length)

/-! ## 3. Properties -/

def setOf (characters : String) : CharSet :=
  characters.toList.foldl (fun set c => .either set (.single c)) .nothing

def farLetters : CharSet := .without .word (.range '\x00' '\x7f')

def property? (name : String) : Option CharSet :=
  let upper := CharSet.range 'A' 'Z'
  let lower := CharSet.range 'a' 'z'
  let letters := CharSet.either farLetters (.either upper lower)
  let marks := setOf "!\"#%&'()*,-./:;?@[\\]_\x7b\x7d"
  let symbols := setOf "$+<=>^`|~"
  let controls := CharSet.either (.range '\x00' '\x1f') (.range '\x7f' '\x9f')
  if ["any"].contains name then some .all
  else if ["ascii"].contains name then some (.range '\x00' '\x7f')
  else if ["l", "letter", "alphabetic", "alpha"].contains name then some letters
  else if ["lu", "uppercaseletter", "uppercase", "upper"].contains name then some upper
  else if ["ll", "lowercaseletter", "lowercase", "lower"].contains name then some lower
  else if ["n", "number", "nd", "decimalnumber", "digit"].contains name then some .digit
  else if ["p", "punctuation", "punct"].contains name then some marks
  else if ["s", "symbol"].contains name then some symbols
  else if ["z", "separator", "zs", "spaceseparator"].contains name then
    some (.both .blank (.other (.range '\t' '\r')))
  else if ["whitespace", "space", "wspace"].contains name then some .blank
  else if ["c", "other", "cc", "control", "cntrl"].contains name then some controls
  else none

/-- The name of a property: case, blanks, hyphens and underscores do not count. -/
def propertyName (text : List Char) : String :=
  String.ofList ((text.filter fun c => c != ' ' && c != '-' && c != '_').map Char.toLower)

def readProperty? : List Char → Option (CharSet × List Char)
  | '\x7b' :: text => do
    let (inside, rest) ← splitBrace text
    match inside with
    | '^' :: name => return (.other (← property? (propertyName name)), rest)
    | name => return (← property? (propertyName name), rest)
  | c :: rest => (property? (propertyName [c])).map fun set => (set, rest)
  | [] => none

/-! ## 4. Reading -/

def wordEdge? (name : List Char) : Option Edge :=
  let name := String.ofList name
  if name = "start" then some .wordStart
  else if name = "end" then some .wordEnd
  else if name = "start-half" then some .wordStartHalf
  else if name = "end-half" then some .wordEndHalf
  else none

/-- An edge of words.  Braces behind it that do not begin with a letter or hyphen do not belong to
it. -/
def readWordEdge? (text : List Char) : Option (Atom × List Char) :=
  match text with
  | '\x7b' :: c :: inside =>
    if c.isAlpha || c == '-' then do
      let (name, rest) ← splitBrace (c :: inside)
      return (.edge (← wordEdge? name), rest)
    else some (.edge .wordEdge, text)
  | text => some (.edge .wordEdge, text)

def readEscape? (options : Options) : List Char → Option (Atom × List Char)
  | [] => none
  | c :: text =>
    if isEscapable c then some (.character c, text)
    else if c = 'b' then readWordEdge? text
    else if c = 'p' then
      (readProperty? text).map fun (set, rest) => (.set (options.apply set), rest)
    else if c = 'P' then
      (readProperty? text).map fun (set, rest) => (.set (.other (options.apply set)), rest)
    else
      match codeLength? c with
      | some length => (readHex? length text).map fun (c, rest) => (.character c, rest)
      | none =>
        ((((control? c).map Atom.character).or ((edge? c).map Atom.edge)).or
          ((class? c).map Atom.set)).map fun atom => (atom, text)

end JobDesk.Text.Pattern
