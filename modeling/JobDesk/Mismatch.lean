/-!
# Mismatch — data of the wrong shape

Data can be well formed and still not be what a reader asked for.  A mismatch says what was found,
or what was missing, and what was asked for.
-/

namespace JobDesk

inductive Mismatch where
  /-- A value of another kind. -/
  | kind (got want : String)
  /-- A value of the right kind outside its range. -/
  | range (got want : String)
  /-- A list with too few items. -/
  | length (count : Nat) (want : String)
  /-- A field that was not given. -/
  | missing (field : String)
  /-- A field that was given twice. -/
  | duplicate (field : String)
  /-- A name that is none of the given ones. -/
  | unknownName (name : String) (names : List String)
  deriving DecidableEq, Inhabited

namespace Mismatch

def quoteName (name : String) : String :=
  "`" ++ name ++ "`"

def message : Mismatch → String
  | kind got want => s!"invalid type: {got}, expected {want}"
  | range got want => s!"invalid value: {got}, expected {want}"
  | length count want => s!"invalid length {count}, expected {want}"
  | missing field => "missing field " ++ quoteName field
  | duplicate field => "duplicate field " ++ quoteName field
  | unknownName name names =>
    "unknown variant " ++ quoteName name ++ ", expected one of "
      ++ String.intercalate ", " (names.map quoteName)

end Mismatch

def wantElements (name : String) (count : Nat) : String :=
  s!"{name} with {count} element" ++ if count = 1 then "" else "s"

end JobDesk
