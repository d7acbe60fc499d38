import JobDesk.Job.Basic
import JobDesk.Store.Error
import JobDesk.Text.Decimal
import JobDesk.Text.Quoted

/-!
# Replies — what the database answers

A reply to a statement has rows, a tag that tells how many rows were affected, or an error; or the
connection ends instead.  A value is taken from the first row, by its place or by the name of its
column, and must have the type that was asked for and not be null.
-/

namespace JobDesk.Postgres

inductive ColumnType where
  | int8
  | int2
  | int4
  | text
  | bytea
  | timestamptz
  deriving DecidableEq, Inhabited

def ColumnType.name : ColumnType → String
  | int8 => "INT8"
  | int2 => "INT2"
  | int4 => "INT4"
  | text => "TEXT"
  | bytea => "BYTEA"
  | timestamptz => "TIMESTAMPTZ"

inductive Cell where
  | null
  | int (value : Int)
  | text (value : String)
  | bytes (value : Bytes)
  deriving DecidableEq, Inhabited

structure Column where
  name : String
  type : ColumnType
  deriving DecidableEq, Inhabited

structure Rows where
  columns : List Column
  rows : List (List Cell)
  tag : String
  deriving Inhabited

inductive Reply where
  | rows (rows : Rows)
  | refused (message : String)
  /-- The connection ended. -/
  | closed
  deriving Inhabited

def closedError : StoreError := .io "expected to read 5 bytes, got 0 bytes at EOF"

/-! ## 1. Values -/

/-- A type that columns can hold: its own name, the column type and the value of a cell. -/
structure CellType (α : Type) where
  name : String
  type : ColumnType
  value : Cell → Option α

def int8 : CellType Int64 where
  name := "i64"
  type := .int8
  value
    | .int n => some (Int64.ofInt n)
    | _ => none

def int2 : CellType Int16 where
  name := "i16"
  type := .int2
  value
    | .int n => some (Int16.ofInt n)
    | _ => none

def bytea : CellType Bytes where
  name := "alloc::vec::Vec<u8>"
  type := .bytea
  value
    | .bytes b => some b
    | _ => none

def timestamptz : CellType Moment where
  name := "chrono::datetime::DateTime<chrono::offset::utc::Utc>"
  type := .timestamptz
  value
    | .int n => some (Moment.ofMicros n)
    | _ => none

def typeMismatch {α : Type} (want : CellType α) (got : ColumnType) : String :=
  "mismatched types; Rust type `" ++ want.name ++ "` (as SQL type `" ++ want.type.name
    ++ "`) is not compatible with SQL type `" ++ got.name ++ "`"

def unexpectedNull : String := "unexpected null; try decoding as an `Option`"

def decodeCell {α : Type} (want : CellType α) (label : String) (column : Column) (cell : Cell) :
    Except StoreError α :=
  match cell with
  | .null => .error (.columnDecode label unexpectedNull)
  | cell =>
    if column.type = want.type then
      match want.value cell with
      | some value => .ok value
      | none => .error (.columnDecode label (typeMismatch want column.type))
    else .error (.columnDecode label (typeMismatch want column.type))

/-! ## 2. Rows -/

namespace Rows

def first? (reply : Rows) : Option (List (Column × Cell)) :=
  reply.rows.head?.map fun row => reply.columns.zip row

def scalar {α : Type} (want : CellType α) (row : List (Column × Cell)) : Except StoreError α :=
  match row with
  | [] => .error (.columnOutOfBounds 0 0)
  | (column, cell) :: _ => decodeCell want "0" column cell

/-- The value of the column with a given name; of several columns with that name, the last one's. -/
def field {α : Type} (want : CellType α) (name : String) (row : List (Column × Cell)) :
    Except StoreError α :=
  match row.reverse.find? (·.1.name == name) with
  | none => .error (.columnNotFound name)
  | some (column, cell) => decodeCell want (Text.quoted name) column cell

def job (row : List (Column × Cell)) : Except StoreError Job := do
  let id ← field int8 "id" row
  let status ← field int2 "status" row
  let payload ← field bytea "search_config" row
  let created ← field timestamptz "creation_time" row
  return ⟨id, status, payload, created⟩

/-- The number at the beginning of a word, if it has at most 64 bits, or else zero. -/
def countOf : List Char → Nat
  | '-' :: _ => 0
  | '+' :: word | word =>
    let count := Text.digitsValue (word.takeWhile Text.isDigit)
    if count < 0x10000000000000000 then count else 0

/-- The number of rows that a tag says were affected: what stands behind its last blank. -/
def affected (reply : Rows) : Nat :=
  let word := (reply.tag.toList.reverse.takeWhile (· != ' ')).reverse
  if reply.tag.toList.contains ' ' then countOf word else 0

end Rows

end JobDesk.Postgres
