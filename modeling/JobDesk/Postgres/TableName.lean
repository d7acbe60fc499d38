/-!
# Table names — names that may stand in a statement

A table name becomes part of statements, so only plain identifiers are accepted: an ASCII letter or
underscore and then ASCII letters, digits and underscores, at most 63 characters in all.
-/

namespace JobDesk.Postgres

def isIdentifierStart (c : Char) : Bool := c.isAlpha || c == '_'

def isIdentifierPart (c : Char) : Bool := c.isAlphanum || c == '_'

def identifierLimit : Nat := 63

def isIdentifier (name : String) : Bool :=
  match name.toList with
  | [] => false
  | c :: rest =>
    isIdentifierStart c && name.utf8ByteSize ≤ identifierLimit && rest.all isIdentifierPart

def standardTable : String := "search_jobs"

def tableNameMessage (name : String) : String :=
  "search jobs table name `" ++ name ++ "` is not a valid SQL identifier"

end JobDesk.Postgres
