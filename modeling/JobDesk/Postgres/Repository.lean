import JobDesk.Postgres.Pool
import JobDesk.Store.Basic

/-!
# Repository — jobs in a table of the database

Each operation of a job table is one statement on one pool.
-/

namespace JobDesk.Postgres

/-- A table of jobs that is reached through a pool of a backend. -/
structure Repository (L : Type) where
  backend : Backend L
  pool : Nat
  table : String

namespace Repository

variable {L : Type} [Link L]

def ask {α : Type} (repository : Repository L) (statement : Statement)
    (decode : Rows → Except StoreError α) : StoreResult (Repository L) α :=
  let (result, backend) :=
    repository.backend.execute repository.pool repository.table statement
  let repository := { repository with backend := backend }
  match result with
  | .ok rows => (decode rows, repository)
  | .error error => (.error error, repository)

def ofFirst {α : Type} (decode : List (Column × Cell) → Except StoreError α) (rows : Rows) :
    Except StoreError (Option α) :=
  match rows.first? with
  | none => .ok none
  | some row => (decode row).map some

def ofOne {α : Type} (decode : List (Column × Cell) → Except StoreError α) (rows : Rows) :
    Except StoreError α :=
  match rows.first? with
  | none => .error .rowNotFound
  | some row => decode row

instance : JobStore (Repository L) where
  insert repository payload := repository.ask (.insert payload) (ofOne (Rows.scalar int8))
  setStatus repository id status :=
    repository.ask (.setStatus id status.code) fun _ => .ok ()
  setStatusIf repository id expected new :=
    repository.ask (.setStatusIf id expected.code new.code) fun rows => .ok (0 < rows.affected)
  fetchStatus repository id := repository.ask (.fetchStatus id) (ofFirst (Rows.scalar int2))
  fetchJob repository id := repository.ask (.fetchJob id) (ofFirst Rows.job)

def ensureTable (repository : Repository L) : StoreResult (Repository L) Unit :=
  match repository.ask .createTable fun _ => .ok () with
  | (.error error, repository) => (.error error, repository)
  | (.ok (), repository) => repository.ask .createIndex fun _ => .ok ()

end Repository

end JobDesk.Postgres
