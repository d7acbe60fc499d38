import JobDesk.Bytes

/-!
# Directories — files and the paths that lead to them

A path is walked part by part from the directory in which it starts.  A part leads on only from a
directory: an empty part or a point stays there, two points lead back, and a name leads to what is
called so.  A file is read by a path that ends at it.
-/

namespace JobDesk

/-- What a directory holds: every file with the names that lead to it, the outermost first. -/
structure Directory where
  files : List (List String × Bytes) := []
  deriving Inhabited

namespace Directory

def pathLimit : Nat := 4096

def fileAt? (directory : Directory) (names : List String) : Option Bytes :=
  directory.files.lookup names

/-- Whether some names lead to a directory: to the starting one, or to one that holds a file. -/
def isDirectory (directory : Directory) (names : List String) : Bool :=
  names.isEmpty || directory.files.any fun file => names.isPrefixOf file.1 && names != file.1

/-- The names that lead to the end of a path that starts behind some names.  Nothing is known of
what lies outside of the starting directory. -/
def walk? (directory : Directory) : (names parts : List String) → Option (List String)
  | names, [] => some names
  | names, part :: rest =>
    if !directory.isDirectory names then none
    else if part = "" ∨ part = "." then walk? directory names rest
    else if part = ".." then
      if names.isEmpty then none else walk? directory names.dropLast rest
    else walk? directory (names ++ [part]) rest

def parts (path : String) : List String :=
  (path.toList.splitOn '/').map String.ofList

def bytes? (directory : Directory) (path : String) : Option Bytes :=
  if path.toList.head? = some '/' ∨ pathLimit ≤ path.utf8ByteSize then none
  else (directory.walk? [] (parts path)).bind directory.fileAt?

def text? (directory : Directory) (path : String) : Option String :=
  (directory.bytes? path).bind Bytes.toText?

end Directory

end JobDesk
