import JobDesk.Http.Host.Barred
import JobDesk.Http.Host.Direction
import JobDesk.Http.Host.Folding
import JobDesk.Http.Host.Joining
import JobDesk.Http.Host.Punycode
import JobDesk.Text.Canonical.Basic

/-!
# Names of hosts — labels that points divide

A name is brought into one form: capital letters become small ones, characters that stand for
others are replaced by them, characters with marks have their canonical spelling, and a label with
characters beyond ASCII is written as punycode behind a mark.  A label that has the mark already
must be such a form of a label.
-/

namespace JobDesk.Http.Host

open Punycode (isAscii)

def mark : List Char := ['x', 'n', '-', '-']

def normalize? (c : Char) : Option (List Char) :=
  if isAscii c then some [c.toLower] else if isBarred c then none else some (fold c)

def normalForm? (text : List Char) : Option (List Char) := do
  return Text.Canonical.spell (← text.mapM normalize?).flatten

def mostExtended : Nat := 1000

def mostWritten : Nat := 2000

/-- The label that the normal form of a label stands for: what is written behind the mark, or the
label itself.  The mark stands before what would be written there only. -/
def meant? (label : List Char) : Option (List Char) :=
  if mark.isPrefixOf label then
    let written := label.drop mark.length
    if mostWritten < written.length then none
    else
      match Punycode.decode? written with
      | some extended =>
        if !extended.all isAscii ∧ Punycode.encode extended = written
            ∧ normalForm? extended = some extended
        then some extended else none
      | none => none
  else some label

def isFit (label : List Char) : Bool :=
  label.all isAscii
    || !label.head?.any Text.isMark && canJoin [] label && label.length ≤ mostExtended

def labelToAscii (label : List Char) : List Char :=
  if label.all isAscii then label else mark ++ Punycode.encode label

def isForbidden (c : Char) : Bool :=
  c ≤ ' ' || c == '\x7f' || "#%/:<>?@[\\]^|".toList.contains c

def nameToAscii? (text : List Char) : Option (List Char) := do
  let labels ← ((← normalForm? text).splitOn '.').mapM meant?
  let name := ['.'].intercalate (labels.map labelToAscii)
  let isRegular := labels.all isFit && (!labels.any isTurned || labels.all isSteady)
  if !isRegular || name.isEmpty || name.any isForbidden then none else return name

end JobDesk.Http.Host
