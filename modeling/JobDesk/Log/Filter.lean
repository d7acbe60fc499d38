import JobDesk.Log.Record
import JobDesk.Text.Pattern.Read

/-!
# Log filters — which records are written

A filter is a list of directives: each gives the gravity from which on records are written, for all
components or for those whose names begin with a text.  The directive with the longest such text
counts.  Behind a slash a filter may have a pattern for what a record must contain; one that cannot
be read lets every record through.
-/

namespace JobDesk

inductive LogThreshold where
  | off
  | upTo (level : LogLevel)
  deriving DecidableEq, Inhabited

namespace LogThreshold

def admits : LogThreshold → LogLevel → Bool
  | off, _ => false
  | upTo least, level => level.rank ≤ least.rank

def ofName? (name : List Char) : Option LogThreshold :=
  let word := String.ofList (name.map Char.toUpper)
  if word = "OFF" then some off
  else (LogLevel.all.find? fun level => level.name == word).map upTo

end LogThreshold

structure LogDirective where
  component : Option (List Char)
  threshold : LogThreshold
  deriving DecidableEq, Inhabited

structure LogFilter where
  directives : List LogDirective
  pattern : Option Text.Pattern := none
  deriving DecidableEq, Inhabited

namespace LogDirective

def read? (piece : List Char) : Option LogDirective :=
  match piece.splitOn '=' with
  | [word] =>
    match LogThreshold.ofName? word with
    | some threshold => some ⟨none, threshold⟩
    -- A word that is no level is the name of a component, all of whose records are written.
    | none => some ⟨some word, .upTo .trace⟩
  | [component, word] =>
    let word := Text.trim word
    if word.isEmpty then some ⟨some component, .upTo .trace⟩
    else (LogThreshold.ofName? word).map fun threshold => ⟨some component, threshold⟩
  | _ => none

def covers (directive : LogDirective) (component : List Char) : Bool :=
  directive.component.all (·.isPrefixOf component)

def weight (directive : LogDirective) : Nat :=
  (directive.component.map List.length).getD 0

end LogDirective

namespace LogFilter

/-- A directive put in the place of one for the same components, or else behind the others. -/
def insert (directives : List LogDirective) (directive : LogDirective) : List LogDirective :=
  if directives.any (·.component == directive.component) then
    directives.map fun old => if old.component == directive.component then directive else old
  else directives ++ [directive]

/-- The directives of a list that commas divide; pieces that are none are passed over. -/
def readDirectives (text : List Char) : List LogDirective :=
  let pieces := ((text.splitOn ',').map Text.trim).filter fun piece => !piece.isEmpty
  (pieces.filterMap LogDirective.read?).foldl insert []

/-- The filter that a text stands for.  One without directives lets only errors through. -/
def read (text : String) : LogFilter :=
  let (directives, pattern) :=
    match text.toList.splitOn '/' with
    | [directives] => (readDirectives directives, none)
    | [directives, pattern] => (readDirectives directives, Text.Pattern.read? pattern)
    | _ => ([], none)
  ⟨if directives.isEmpty then [⟨none, .upTo .error⟩] else directives, pattern⟩

/-- Of the directives for a component, the one that states most of its name; of equals the last. -/
def directiveFor? (filter : LogFilter) (component : List Char) : Option LogDirective :=
  (filter.directives.filter (·.covers component)).foldl
    (fun best directive =>
      match best with
      | some old => if directive.weight < old.weight then some old else some directive
      | none => some directive)
    none

def admits (filter : LogFilter) (record : LogRecord) : Bool :=
  (filter.directiveFor? record.target.toList).any (·.threshold.admits record.level)
    && filter.pattern.all (·.occursIn record.message)

end LogFilter

end JobDesk
