import JobDesk.Bytes
import JobDesk.Job.Status

/-!
# Statements — what is asked of the database

Every statement on jobs names the table in its text and hands over all values as parameters.
-/

namespace JobDesk.Postgres

inductive Param where
  | int8 (value : Int64)
  | int2 (value : Int16)
  | bytea (value : Bytes)
  deriving DecidableEq, Inhabited

/-- A statement; those on jobs are about a table. -/
inductive Statement where
  /-- Asks for nothing but an answer. -/
  | verify
  | createTable
  | createIndex
  | insert (payload : Bytes)
  | setStatus (id : Int64) (status : Int16)
  | setStatusIf (id : Int64) (expected new : Int16)
  | fetchStatus (id : Int64)
  | fetchJob (id : Int64)
  deriving DecidableEq, Inhabited

def indexName (table : String) : String := table ++ "_status_idx"

namespace Statement

def sql (table : String) : Statement → String
  | verify => "SELECT 1"
  | createTable =>
    "
            CREATE TABLE IF NOT EXISTS " ++ table ++ " (
                id BIGSERIAL PRIMARY KEY,
                status SMALLINT NOT NULL DEFAULT " ++ toString Status.pending.code.toInt ++ ",
                search_config BYTEA NOT NULL,
                creation_time TIMESTAMPTZ NOT NULL DEFAULT NOW()
            )
            "
  | createIndex =>
    "CREATE INDEX IF NOT EXISTS " ++ indexName table ++ " ON " ++ table ++ " (status)"
  | insert _ => "INSERT INTO " ++ table ++ " (search_config) VALUES ($1) RETURNING id"
  | setStatus _ _ => "UPDATE " ++ table ++ " SET status = $1 WHERE id = $2"
  | setStatusIf _ _ _ => "UPDATE " ++ table ++ " SET status = $1 WHERE id = $2 AND status = $3"
  | fetchStatus _ => "SELECT status FROM " ++ table ++ " WHERE id = $1"
  | fetchJob _ =>
    "SELECT id, status, search_config, creation_time FROM " ++ table ++ " WHERE id = $1"

def params : Statement → List Param
  | verify | createTable | createIndex => []
  | insert payload => [.bytea payload]
  | setStatus id status => [.int2 status, .int8 id]
  | setStatusIf id expected new => [.int2 new, .int8 id, .int2 expected]
  | fetchStatus id | fetchJob id => [.int8 id]

end Statement

end JobDesk.Postgres
