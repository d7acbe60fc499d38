import JobDesk.Postgres.TablePeer
import JobDesk.Proofs.Postgres.Sql

/-!
# Executed — what the statements on jobs do

Each statement, read from its text and given its parameters in their order, does to a table of jobs
what its name says.  A peer with a table answers as a database with the same rows does.
-/

namespace JobDesk.Postgres.Sql

variable {table : String}

/-! ## 1. Commands -/

def jobColumns : List Declared :=
  [⟨"id", .int8, true, .serial⟩, ⟨"status", .int2, true, .number 0⟩,
    ⟨"search_config", .bytea, true, .nothing⟩, ⟨"creation_time", .timestamptz, true, .now⟩]

def commandOf (table : String) : Statement → Command
  | .verify => .probe
  | .createTable => .createTable table jobColumns
  | .createIndex => .createIndex table "status"
  | .insert _ => .insert table "search_config" (.param 1) "id"
  | .setStatus _ _ => .update table ⟨"status", .param 1⟩ [⟨"id", .param 2⟩]
  | .setStatusIf _ _ _ =>
    .update table ⟨"status", .param 1⟩ [⟨"id", .param 2⟩, ⟨"status", .param 3⟩]
  | .fetchStatus _ => .select ["status"] table [⟨"id", .param 1⟩]
  | .fetchJob _ =>
    .select ["id", "status", "search_config", "creation_time"] table [⟨"id", .param 1⟩]

theorem command?_sql (h : isIdentifier table = true) (statement : Statement) :
    command? (tokens (statement.sql table)) = some (commandOf table statement) := by
  rw [tokens_sql h]
  cases statement <;> rfl

/-! ## 2. Answers -/

def jobTable (table : String) (rows : List (List Cell)) (last : Int) : Table :=
  ⟨table, jobColumns, rows, last⟩

def jobDatabase (table : String) (rows : List (List Cell)) (last now : Int) : Database :=
  ⟨some (jobTable table rows last), now⟩

variable {rows : List (List Cell)} {last now : Int}

def Database.reply (db : Database) (table : String) (statement : Statement) : Reply × Database :=
  db.answer (statement.sql table) statement.params

theorem reply_of_execute {db after : Database} {statement : Statement} {found : Rows}
    (h : isIdentifier table = true)
    (hexecute : db.execute statement.params (commandOf table statement) = .ok (found, after)) :
    db.reply table statement = (.rows found, after) := by
  rw [Database.reply, Database.answer, command?_sql h]
  simp only [hexecute]

theorem find_jobDatabase :
    (jobDatabase table rows last now).find table = .ok (jobTable table rows last) :=
  if_pos rfl

def byId (id : Int64) : Nat × Cell := (0, .int id.toInt)

def byCode (code : Int16) : Nat × Cell := (1, .int code.toInt)

theorem isMatch_byId (id key : Int64) (rest : List Cell) :
    isMatch [byId key] (.int id.toInt :: rest) = (id == key) := by
  rw [Bool.eq_iff_iff]
  simp [isMatch, byId, Int64.toInt_inj]

theorem isMatch_byCode (id key : Int64) (code wanted : Int16) (rest : List Cell) :
    isMatch [byId key, byCode wanted] (.int id.toInt :: .int code.toInt :: rest) =
      (id == key && code == wanted) := by
  rw [Bool.eq_iff_iff]
  simp [isMatch, byId, byCode, Int64.toInt_inj, Int16.toInt_inj]

theorem reply_createTable (h : isIdentifier table = true) :
    Database.reply ⟨none, now⟩ table .createTable =
      (.rows (tagged "CREATE TABLE"), jobDatabase table [] 0 now) :=
  reply_of_execute h rfl

theorem reply_createIndex (h : isIdentifier table = true) :
    (jobDatabase table rows last now).reply table .createIndex =
      (.rows (tagged "CREATE INDEX"), jobDatabase table rows last now) := by
  refine reply_of_execute h ?_
  simp only [commandOf, Database.execute, find_jobDatabase]
  rfl

/-- A new row is pending, has the next number and the time, and holds the payload. -/
theorem reply_insert (h : isIdentifier table = true) (hroom : last + 1 ≤ sequenceLimit)
    (payload : Bytes) :
    (jobDatabase table rows last now).reply table (.insert payload) =
      (.rows ⟨[⟨"id", .int8⟩], [[.int (last + 1)]], "INSERT 0 1"⟩,
        jobDatabase table (rows ++ [[.int (last + 1), .int 0, .bytes payload, .int now]])
          (last + 1) now) := by
  refine reply_of_execute h ?_
  have hserial : (jobDatabase table rows last now).newCell (jobTable table rows last)
      (2, .bytes payload) ⟨"id", .int8, true, .serial⟩ 0 = .ok (.int (last + 1)) := if_pos hroom
  have hrow : (jobDatabase table rows last now).newRow (jobTable table rows last)
      (2, .bytes payload) = .ok [.int (last + 1), .int 0, .bytes payload, .int now] := by
    have hcolumns : (jobTable table rows last).columns = jobColumns := rfl
    simp only [Database.newRow, hcolumns, jobColumns, List.zipIdx_cons, List.zipIdx_nil,
      List.mapM_cons, List.mapM_nil, hserial]
    rfl
  have hgiven : (jobTable table rows last).assignment [.bytea payload]
      ⟨"search_config", .param 1⟩ = .ok (2, .bytes payload) := rfl
  simp only [commandOf, Database.execute, find_jobDatabase, Statement.params, hgiven, hrow, bind,
    Except.bind]
  rfl

theorem reply_setStatus (h : isIdentifier table = true) (id : Int64) (status : Int16) :
    (jobDatabase table rows last now).reply table (.setStatus id status) =
      (.rows (tagged ("UPDATE " ++ toString (rows.countP (isMatch [byId id])))),
        jobDatabase table
          (rows.map fun row =>
            if isMatch [byId id] row then row.set 1 (.int status.toInt) else row) last now) := by
  refine reply_of_execute h ?_
  simp only [commandOf, Database.execute, find_jobDatabase]
  rfl

theorem reply_setStatusIf (h : isIdentifier table = true) (id : Int64) (expected new : Int16) :
    (jobDatabase table rows last now).reply table (.setStatusIf id expected new) =
      (.rows (tagged ("UPDATE " ++ toString (rows.countP (isMatch [byId id, byCode expected])))),
        jobDatabase table
          (rows.map fun row =>
            if isMatch [byId id, byCode expected] row then row.set 1 (.int new.toInt) else row)
          last now) := by
  refine reply_of_execute h ?_
  simp only [commandOf, Database.execute, find_jobDatabase]
  rfl

theorem reply_fetchStatus (h : isIdentifier table = true) (id : Int64) :
    (jobDatabase table rows last now).reply table (.fetchStatus id) =
      (.rows ⟨[⟨"status", .int2⟩],
        (rows.filter (isMatch [byId id])).map fun row => [row[1]?.getD .null],
        "SELECT " ++ toString (rows.filter (isMatch [byId id])).length⟩,
        jobDatabase table rows last now) := by
  refine reply_of_execute h ?_
  simp only [commandOf, Database.execute, find_jobDatabase]
  rfl

theorem reply_fetchJob (h : isIdentifier table = true) (id : Int64) :
    (jobDatabase table rows last now).reply table (.fetchJob id) =
      (.rows ⟨[⟨"id", .int8⟩, ⟨"status", .int2⟩, ⟨"search_config", .bytea⟩,
          ⟨"creation_time", .timestamptz⟩],
        (rows.filter (isMatch [byId id])).map fun row =>
          [row[0]?.getD .null, row[1]?.getD .null, row[2]?.getD .null, row[3]?.getD .null],
        "SELECT " ++ toString (rows.filter (isMatch [byId id])).length⟩,
        jobDatabase table rows last now) := by
  refine reply_of_execute h ?_
  simp only [commandOf, Database.execute, find_jobDatabase]
  rfl

def deletion (table : String) : String := "DELETE FROM " ++ table ++ " WHERE id = $1"

theorem answer_deletion (h : isIdentifier table = true) (id : Int64) :
    (jobDatabase table rows last now).answer (deletion table) [.int8 id] =
      (.rows (tagged ("DELETE " ++ toString (rows.countP (isMatch [byId id])))),
        jobDatabase table (rows.filter (!isMatch [byId id] ·)) last now) := by
  have htokens : tokens (deletion table) =
      ["DELETE", "FROM", table, "WHERE", "id", "=", "$", "1"] := by
    rw [deletion, tokens_splice _ (tokens_table h) (by decide) (by decide)]
    rfl
  have hcommand : command? (tokens (deletion table)) =
      some (.delete table [⟨"id", .param 1⟩]) := by
    rw [htokens]
    rfl
  rw [Database.answer, hcommand]
  simp only [Database.execute, find_jobDatabase]
  rfl

end JobDesk.Postgres.Sql

/-! ## 3. The table of a peer -/

namespace JobDesk.Postgres.TablePeer

open Sql (Database byCode byId isMatch jobDatabase)

variable {table : String}

def database (peer : TablePeer) (table : String) : Database :=
  jobDatabase table (peer.rows.map cells) peer.lastId.toInt (micros peer.now)

/-- An update writes the rows that its conditions pick out, and says how many they are. -/
theorem update_database (peer : TablePeer) (table : String) {p : List Cell → Bool} {q : Job → Bool}
    (hpick : ∀ job, p (cells job) = q job) (status : Int16) :
    ((peer.update q status).1, (peer.update q status).2.database table) =
      (tagged ("UPDATE " ++ toString ((peer.rows.map cells).countP p)),
        jobDatabase table ((peer.rows.map cells).map fun row =>
          if p row then row.set 1 (.int status.toInt) else row) peer.lastId.toInt
          (micros peer.now)) := by
  have hcount : (peer.rows.map cells).countP p = peer.rows.countP q := by
    rw [List.countP_map]
    exact List.countP_congr fun job _ => by rw [Function.comp_apply, hpick]
  let written : Job → Job := fun job => if q job then { job with status := status } else job
  have hrows : ((peer.rows.map cells).map fun row =>
      if p row then row.set 1 (.int status.toInt) else row) =
      (peer.rows.map written).map cells := by
    rw [List.map_map, List.map_map]
    refine List.map_congr_left fun job _ => ?_
    simp only [Function.comp_apply, hpick, written]
    split <;> rfl
  rw [hcount, hrows]
  rfl

theorem filter_cells (peer : TablePeer) (key : Int64) :
    (peer.rows.map cells).filter (isMatch [byId key]) =
      (peer.rows.filter (·.id == key)).map cells := by
  rw [List.filter_map]
  exact congrArg _ (List.filter_congr fun job _ => Sql.isMatch_byId job.id key _)

/-- A peer with a table answers each statement, but for the one that asks for nothing, as a database
does that executes the text of the statement. -/
theorem reply_database (hname : isIdentifier table = true) (peer : TablePeer)
    (hroom : peer.lastId.toInt + 1 ≤ Sql.sequenceLimit) (statement : Statement)
    (hasks : statement ≠ .verify) :
    (peer.database table).reply table statement =
      ((peer.execute statement).1, (peer.execute statement).2.database table) := by
  cases statement with
  | verify => exact absurd rfl hasks
  | createTable => exact Sql.reply_of_execute hname (if_pos rfl)
  | createIndex => exact Sql.reply_createIndex hname
  | insert payload =>
    have hone : (1 : Int64).toInt = 1 := rfl
    have hnext : (peer.lastId + 1).toInt = peer.lastId.toInt + 1 := by
      have hlow := Int64.le_toInt peer.lastId
      unfold Sql.sequenceLimit at hroom
      rw [Int64.toInt_add, hone, Int.bmod_def]
      omega
    rw [database, Sql.reply_insert hname hroom]
    simp only [execute, database, hnext, List.map_append, List.map_cons, List.map_nil, cells]
    rfl
  | setStatus id status =>
    rw [database, Sql.reply_setStatus hname]
    exact (peer.update_database table (fun job => Sql.isMatch_byId job.id id _) status).symm
  | setStatusIf id expected new =>
    rw [database, Sql.reply_setStatusIf hname]
    exact (peer.update_database table
      (fun job => Sql.isMatch_byCode job.id id job.status expected _) new).symm
  | fetchStatus id =>
    rw [database, Sql.reply_fetchStatus hname, filter_cells, List.map_map, List.length_map]
    rfl
  | fetchJob id =>
    rw [database, Sql.reply_fetchJob hname, filter_cells, List.map_map, List.length_map]
    rfl

end JobDesk.Postgres.TablePeer
