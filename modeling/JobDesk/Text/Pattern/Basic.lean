import JobDesk.Text.Alphanumeric
import JobDesk.Text.Blank
import JobDesk.Text.Decimal

/-!
# Patterns — which texts contain what is looked for

A pattern is matched with all places of a text at once: from the places where a match can start come
the places where it can end.  A text contains what a pattern looks for if there is any such end.
-/

namespace JobDesk.Text

/-! ## 1. Sets of characters -/

inductive CharSet where
  | nothing
  /-- The characters from one to another, both included. -/
  | range (first last : Char)
  /-- The digits from zero to nine. -/
  | digit
  /-- Letters, digits and the underscore. -/
  | word
  | blank
  | either (a b : CharSet)
  | both (a b : CharSet)
  | without (a b : CharSet)
  | symmetric (a b : CharSet)
  | other (a : CharSet)
  /-- The characters of which the small or the capital form is in a set. -/
  | anyCase (a : CharSet)
  deriving DecidableEq, Inhabited

def isWordPart (c : Char) : Bool := isAlphanumeric c || c == '_'

namespace CharSet

def contains : CharSet → Char → Bool
  | nothing, _ => false
  | range first last, c => first ≤ c && c ≤ last
  | digit, c => isDigit c
  | word, c => isWordPart c
  | blank, c => isBlank c
  | either a b, c => a.contains c || b.contains c
  | both a b, c => a.contains c && b.contains c
  | without a b, c => a.contains c && !b.contains c
  | symmetric a b, c => a.contains c != b.contains c
  | other a, c => !a.contains c
  | anyCase a, c => a.contains c || a.contains c.toLower || a.contains c.toUpper

def single (c : Char) : CharSet := range c c

def all : CharSet := other nothing

end CharSet

/-! ## 2. Patterns -/

inductive Edge where
  | textStart
  | textEnd
  | lineStart
  | lineEnd
  | wordEdge
  | noWordEdge
  | wordStart
  | wordEnd
  /-- No word goes on before the place. -/
  | wordStartHalf
  /-- No word goes on behind the place. -/
  | wordEndHalf
  deriving DecidableEq, Inhabited

inductive Pattern where
  | empty
  | one (set : CharSet)
  | place (edge : Edge)
  | seq (first second : Pattern)
  | choice (a b : Pattern)
  /-- What comes at least and at most so many times. -/
  | repeated (p : Pattern) (least : Nat) (most : Option Nat)
  deriving DecidableEq, Inhabited

/-! ## 3. Places -/

/-- Whether a place is an edge; before and behind it stand characters or nothing. -/
def Edge.holds (edge : Edge) (before behind : Option Char) : Bool :=
  let wordBefore := before.any isWordPart
  let wordBehind := behind.any isWordPart
  match edge with
  | textStart => before.isNone
  | textEnd => behind.isNone
  | lineStart => before.all (· == '\n')
  | lineEnd => behind.all (· == '\n')
  | wordEdge => wordBefore != wordBehind
  | noWordEdge => wordBefore == wordBehind
  | wordStart => !wordBefore && wordBehind
  | wordEnd => wordBefore && !wordBehind
  | wordStartHalf => !wordBefore
  | wordEndHalf => !wordBehind

/-- Places of a text, each with a mark; there is one place more than there are characters. -/
abbrev Marks := Array Bool

namespace Marks

def union (a b : Marks) : Marks := a.zipWith (· || ·) b

def iterate (step : Marks → Marks) : Nat → Marks → Marks
  | 0, marks => marks
  | count + 1, marks => iterate step count (step marks)

def grow (step : Marks → Marks) : Nat → Marks → Marks
  | 0, marks => marks
  | count + 1, marks =>
    let more := marks.union (step marks)
    if more = marks then marks else grow step count more

end Marks

namespace Pattern

def ends (text : Array Char) : Pattern → Marks → Marks
  | empty, marks => marks
  | one set, marks =>
    (Array.range marks.size).map fun place =>
      0 < place && marks.getD (place - 1) false && text[place - 1]?.any set.contains
  | place edge, marks =>
    (Array.range marks.size).map fun place =>
      marks.getD place false
        && edge.holds (if place = 0 then none else text[place - 1]?) text[place]?
  | seq first second, marks => ends text second (ends text first marks)
  | choice a b, marks => (ends text a marks).union (ends text b marks)
  -- After more steps than there are places, one of them has stayed where it was.
  | repeated p least most, marks =>
    let enough := marks.size
    let reached := Marks.iterate (ends text p) (min least enough) marks
    Marks.grow (ends text p) (match most with
      | some most => min (most - least) enough
      | none => enough) reached

def occursIn (pattern : Pattern) (text : String) : Bool :=
  let characters := text.toList.toArray
  (pattern.ends characters (Array.replicate (characters.size + 1) true)).any id

end Pattern

end JobDesk.Text
