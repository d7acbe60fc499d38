import JobDesk.Postgres.Pool
import JobDesk.Proofs.Postgres.Tokens

/-!
# Sql — a database that executes the texts of statements

A database reads a text as a command and executes it, at once and as a whole, on the one table that
it has.  Values come from the parameters by their numbers; a new row gets what its columns declare
for what it is not given.  Only the commands are known that are needed for a table of jobs.
-/

namespace JobDesk.Postgres.Sql

/-! ## 1. Commands -/

inductive Operand where
  | param (number : Nat)
  | number (value : Nat)
  deriving DecidableEq

structure Equation where
  column : String
  value : Operand
  deriving DecidableEq

inductive Fallback where
  | nothing
  /-- The next number of the sequence of the table. -/
  | serial
  | number (value : Nat)
  | now
  deriving DecidableEq

structure Declared where
  name : String
  type : ColumnType
  isRequired : Bool := false
  fallback : Fallback := .nothing
  deriving DecidableEq

inductive Command where
  | probe
  | createTable (table : String) (columns : List Declared)
  | createIndex (table column : String)
  | insert (table column : String) (value : Operand) (returning : String)
  | update (table : String) (assigned : Equation) (conditions : List Equation)
  | delete (table : String) (conditions : List Equation)
  | select (columns : List String) (table : String) (conditions : List Equation)
  deriving DecidableEq

/-! ## 2. Reading commands -/

/-- A parser: from the tokens still to be read, a part of a command and the tokens after it. -/
abbrev Parser (α : Type) := List String → Option (α × List String)

def words : List String → Parser Unit
  | [], text => some ((), text)
  | _ :: _, [] => none
  | word :: more, token :: text => if token = word then words more text else none

def name : Parser String
  | [] => none
  | token :: text => some (token, text)

def operand : Parser Operand
  | "$" :: token :: text => (Text.readDigits? token.toList).map fun n => (.param n, text)
  | token :: text => (Text.readDigits? token.toList).map fun n => (.number n, text)
  | [] => none

def equation : Parser Equation := fun text => do
  let (column, text) ← name text
  let (_, text) ← words ["="] text
  let (value, text) ← operand text
  return (⟨column, value⟩, text)

def separated {α : Type} (part : Parser α) (separator : String) :
    (rounds : List String) → Parser (List α)
  | [], _ => none
  | _ :: rounds, text => do
    let (first, text) ← part text
    match words [separator] text with
    | none => return ([first], text)
    | some (_, text) =>
      let (rest, text) ← separated part separator rounds text
      return (first :: rest, text)

def conditions : Parser (List Equation) := fun text => do
  let (_, text) ← words ["WHERE"] text
  separated equation "AND" text text

def constraints (column : Declared) : (rounds : List String) → Parser Declared
  | _ :: rounds, "PRIMARY" :: "KEY" :: text =>
    constraints { column with isRequired := true } rounds text
  | _ :: rounds, "NOT" :: "NULL" :: text =>
    constraints { column with isRequired := true } rounds text
  | _ :: rounds, "DEFAULT" :: "NOW" :: "(" :: ")" :: text =>
    constraints { column with fallback := .now } rounds text
  | _ :: rounds, "DEFAULT" :: token :: text => do
    let value ← Text.readDigits? token.toList
    constraints { column with fallback := .number value } rounds text
  | _, text => some (column, text)

def declared : Parser Declared := fun text => do
  let (column, text) ← name text
  match text with
  | "BIGSERIAL" :: text => constraints ⟨column, .int8, true, .serial⟩ text text
  | "SMALLINT" :: text => constraints ⟨column, .int2, false, .nothing⟩ text text
  | "BYTEA" :: text => constraints ⟨column, .bytea, false, .nothing⟩ text text
  | "TIMESTAMPTZ" :: text => constraints ⟨column, .timestamptz, false, .nothing⟩ text text
  | _ => none

def whole {α : Type} : Option (α × List String) → Option α
  | some (value, []) => some value
  | _ => none

def command? : List String → Option Command
  | ["SELECT", "1"] => some .probe
  | "CREATE" :: "TABLE" :: text => whole do
    let (_, text) ← words ["IF", "NOT", "EXISTS"] text
    let (table, text) ← name text
    let (_, text) ← words ["("] text
    let (columns, text) ← separated declared "," text text
    let (_, text) ← words [")"] text
    return (.createTable table columns, text)
  | "CREATE" :: "INDEX" :: text => whole do
    let (_, text) ← words ["IF", "NOT", "EXISTS"] text
    let (_, text) ← name text
    let (_, text) ← words ["ON"] text
    let (table, text) ← name text
    let (_, text) ← words ["("] text
    let (column, text) ← name text
    let (_, text) ← words [")"] text
    return (.createIndex table column, text)
  | "INSERT" :: "INTO" :: text => whole do
    let (table, text) ← name text
    let (_, text) ← words ["("] text
    let (column, text) ← name text
    let (_, text) ← words [")", "VALUES", "("] text
    let (value, text) ← operand text
    let (_, text) ← words [")", "RETURNING"] text
    let (returning, text) ← name text
    return (.insert table column value returning, text)
  | "UPDATE" :: text => whole do
    let (table, text) ← name text
    let (_, text) ← words ["SET"] text
    let (assigned, text) ← equation text
    let (conditions, text) ← conditions text
    return (.update table assigned conditions, text)
  | "DELETE" :: "FROM" :: text => whole do
    let (table, text) ← name text
    let (conditions, text) ← conditions text
    return (.delete table conditions, text)
  | "SELECT" :: text => whole do
    let (columns, text) ← separated name "," text text
    let (_, text) ← words ["FROM"] text
    let (table, text) ← name text
    let (conditions, text) ← conditions text
    return (.select columns table conditions, text)
  | _ => none

/-! ## 3. Tables -/

structure Table where
  name : String
  columns : List Declared
  rows : List (List Cell) := []
  last : Int := 0
  deriving DecidableEq

structure Database where
  table? : Option Table := none
  now : Int := 0
  deriving DecidableEq

/-- What a command gives back, and the database after it; or why it is refused. -/
abbrev Result := Except String (Rows × Database)

def tagged (tag : String) : Rows := ⟨[], [], tag⟩

def ofParam : Param → ColumnType × Cell
  | .int8 value => (.int8, .int value.toInt)
  | .int2 value => (.int2, .int value.toInt)
  | .bytea value => (.bytea, .bytes value)

def isInteger : ColumnType → Bool
  | .int8 | .int4 | .int2 => true
  | _ => false

/-- The type and the value of an operand; a number in a command is of the type that is wanted. -/
def Operand.value? (params : List Param) (wanted : ColumnType) :
    Operand → Option (ColumnType × Cell)
  | param 0 => none
  | param (n + 1) => params[n]?.map ofParam
  | number value => if isInteger wanted then some (wanted, .int value) else none

namespace Table

def column? (table : Table) (name : String) : Except String (Nat × Declared) :=
  match table.columns.zipIdx.find? fun entry => entry.1.name == name with
  | some (column, place) => .ok (place, column)
  | none => .error ("column does not exist: " ++ name)

def condition (table : Table) (params : List Param) (equation : Equation) :
    Except String (Nat × Cell) := do
  let (place, column) ← table.column? equation.column
  match equation.value.value? params column.type with
  | some (type, cell) =>
    if type = column.type ∨ (isInteger type ∧ isInteger column.type) then return (place, cell)
    else throw "operator does not exist"
  | none => throw "there is no such parameter"

/-- What an equation gives a row: a value of the type of the column, at a place. -/
def assignment (table : Table) (params : List Param) (equation : Equation) :
    Except String (Nat × Cell) := do
  let (place, column) ← table.column? equation.column
  match equation.value.value? params column.type with
  | some (type, cell) =>
    if type = column.type then return (place, cell)
    else throw ("column is of another type: " ++ equation.column)
  | none => throw "there is no such parameter"

end Table

def isMatch (conditions : List (Nat × Cell)) (row : List Cell) : Bool :=
  conditions.all fun (place, cell) => row[place]? == some cell

def sequenceLimit : Int := 0x7fffffffffffffff

/-- The value of a new row in a column, which has been given `given` if it is at that place. -/
def Database.newCell (db : Database) (table : Table) (given : Nat × Cell) (column : Declared)
    (place : Nat) : Except String Cell :=
  if place = given.1 then .ok given.2
  else
    match column.fallback with
    | .serial =>
      if table.last + 1 ≤ sequenceLimit then .ok (.int (table.last + 1))
      else .error "reached maximum value of sequence"
    | .number value => .ok (.int value)
    | .now => .ok (.int db.now)
    | .nothing =>
      if column.isRequired then .error ("null value in column: " ++ column.name) else .ok .null

def Database.newRow (db : Database) (table : Table) (given : Nat × Cell) :
    Except String (List Cell) :=
  table.columns.zipIdx.mapM fun (column, place) => db.newCell table given column place

/-! ## 4. Execution -/

namespace Database

def find (db : Database) (name : String) : Except String Table :=
  match db.table? with
  | some table =>
    if table.name = name then .ok table else .error ("relation does not exist: " ++ name)
  | none => .error ("relation does not exist: " ++ name)

def execute (db : Database) (params : List Param) : Command → Result
  | .probe => .ok (⟨[⟨"?column?", .int4⟩], [[.int 1]], "SELECT 1"⟩, db)
  | .createTable name columns =>
    match db.table? with
    | none => .ok (tagged "CREATE TABLE", { db with table? := some ⟨name, columns, [], 0⟩ })
    | some table =>
      if table.name = name then .ok (tagged "CREATE TABLE", db)
      else .error "there is a table already"
  | .createIndex name column => do
    let table ← db.find name
    let _ ← table.column? column
    return (tagged "CREATE INDEX", db)
  | .insert name column value returning => do
    let table ← db.find name
    let given ← table.assignment params ⟨column, value⟩
    let row ← db.newRow table given
    let (place, returned) ← table.column? returning
    return (⟨[⟨returned.name, returned.type⟩], [[row[place]?.getD .null]], "INSERT 0 1"⟩,
      { db with table? := some { table with rows := table.rows ++ [row], last := table.last + 1 } })
  | .update name assigned conditions => do
    let table ← db.find name
    let (place, cell) ← table.assignment params assigned
    let wanted ← conditions.mapM (table.condition params)
    return (tagged ("UPDATE " ++ toString (table.rows.countP (isMatch wanted))),
      { db with
        table? := some { table with
          rows := table.rows.map fun row =>
            if isMatch wanted row then row.set place cell else row } })
  | .delete name conditions => do
    let table ← db.find name
    let wanted ← conditions.mapM (table.condition params)
    return (tagged ("DELETE " ++ toString (table.rows.countP (isMatch wanted))),
      { db with table? := some { table with rows := table.rows.filter (!isMatch wanted ·) } })
  | .select columns name conditions => do
    let table ← db.find name
    let shown ← columns.mapM table.column?
    let wanted ← conditions.mapM (table.condition params)
    let found := table.rows.filter (isMatch wanted)
    return (⟨shown.map fun (_, column) => ⟨column.name, column.type⟩,
      found.map fun row => shown.map fun (place, _) => row[place]?.getD .null,
      "SELECT " ++ toString found.length⟩, db)

/-- The answer to a text with parameters, and the database after it. -/
def answer (db : Database) (text : String) (params : List Param) : Reply × Database :=
  match command? (tokens text) with
  | none => (.refused "syntax error", db)
  | some command =>
    match db.execute params command with
    | .ok (rows, db) => (.rows rows, db)
    | .error message => (.refused message, db)

/-- A database that can be reached and executes the texts of statements. -/
instance : Link Database where
  connect db _ := (.connected, db)
  execute db table statement := db.answer (statement.sql table) statement.params

end Database

end JobDesk.Postgres.Sql
