import JobDesk.Http.Service
import JobDesk.Keeper.Basic
import JobDesk.Log.Filter
import JobDesk.Settings.Basic

/-!
# Service — from its settings to its end

The service checks its settings, opens its pool, listens and answers requests until it is told to
stop.  However it ends after it has tried to open the pool, no pool is left open.
-/

namespace JobDesk

open Postgres (Backend Link Repository)

namespace Service

inductive Listening where
  | refused (reason : String)
  /-- The requests that come, one after another, until the service is told to stop. -/
  | open (requests : List Http.Request)

/-- What came of a run: its exit code, what it reported, its responses, and the database; a wait
that never ends has no response. -/
structure Run (L : Type) where
  exit : UInt32
  records : List LogRecord
  responses : List (Option Http.Response) := []
  backend : Backend L

def record (level : LogLevel) (message : String) : LogRecord := ⟨level, "search_jobs", message⟩

/-! ## 1. Requests -/

section

variable {L : Type} [Link L]

/-- A request to the coordinator of a keeper.  A wait makes at most `reads` status reads. -/
def answer (keeper : Keeper L) (mounted : Keeper.Mounted) (now : String) (reads : Nat)
    (request : Http.Request) : Keeper.Outcome L (Option Http.Response) :=
  let table : Repository L := ⟨keeper.backend, mounted.pool, mounted.table⟩
  match Http.serve mounted.coordinator table now request with
  | .answered handled =>
    { result := some handled.response
      keeper := { keeper with backend := handled.store.backend }
      notices := handled.notices.map .coordinator }
  | .waits id =>
    let outcome := keeper.wait mounted id reads
    { result := outcome.result.map (Http.waitResponse now id)
      keeper := outcome.keeper
      notices := outcome.notices }

def answerAll (mounted : Keeper.Mounted) (now : String) (reads : Nat) :
    Keeper L → List Http.Request → Keeper.Outcome L (List (Option Http.Response))
  | keeper, [] => { result := [], keeper := keeper }
  | keeper, request :: rest =>
    let first := answer keeper mounted now reads request
    let others := answerAll mounted now reads first.keeper rest
    { result := first.result :: others.result
      keeper := others.keeper
      notices := first.notices ++ others.notices }

/-! ## 2. Runs -/

def address (settings : Settings) : String :=
  s!"{settings.serverAddress}:{settings.serverPort.toNat}"

def listen (settings : Settings) (keeper : Keeper L) (coordinator : Nat) (now : String)
    (reads : Nat) (records : List LogRecord) : Listening → Run L
  | .refused reason =>
    let ended := keeper.shutDown
    { exit := 1
      records := records ++ [record .error s!"Failed to bind {address settings}: {reason}"]
        ++ ended.notices.map Keeper.Notice.record ++ [record .info "search-jobs service stopped"]
      backend := ended.keeper.backend }
  | .open requests =>
    let served : Keeper.Outcome L (List (Option Http.Response)) :=
      match keeper.mounted[coordinator]? with
      | some mounted => answerAll mounted now reads keeper requests
      | none => { result := [], keeper := keeper }
    let ended := served.keeper.shutDown
    { exit := 0
      records := records ++ (served.notices ++ ended.notices).map Keeper.Notice.record
        ++ [record .info "search-jobs service stopped"]
      responses := served.result
      backend := ended.keeper.backend }

def start (settings : Settings) (waiting : CoordinatorSettings) (link : L) (now : String)
    (reads : Nat) (records : List LogRecord) (listening : Listening) : Run L :=
  let keeper : Keeper L :=
    { settings := waiting, createTables := settings.createTables, backend := { link := link } }
  let begun := keeper.setUp settings.target settings.table
  let records := records ++ begun.notices.map Keeper.Notice.record
  match begun.result with
  | .error error =>
    { exit := 1
      records := records ++ [record .error s!"Failed to initialize database pool: {error.message}"]
      backend := begun.keeper.backend }
  | .ok coordinator => listen settings begun.keeper coordinator now reads records listening

def refuse (link : L) (records : List LogRecord) (fault : SettingsFault) : Run L :=
  { exit := 1
    records := records ++ [record .error s!"Configuration error: {fault.message}"]
    backend := { link := link } }

def greeting (settings : Settings) : List LogRecord :=
  [record .info "Starting search-jobs service...",
    record .info s!"Environment: {settings.environment}",
    record .info s!"Server Address: {address settings}"]

def run (settings : Settings) (link : L) (now : String) (reads : Nat) (listening : Listening) :
    Run L :=
  let (valid, records) := settings.validate
  match valid with
  | .error fault => refuse link records fault
  | .ok () =>
    let records := records ++ greeting settings
    match settings.coordinatorSettings with
    | .error fault => refuse link records fault
    | .ok waiting => start settings waiting link now reads records listening

end

/-! ## 3. Logs -/

def standardFilter : String := "info,actix_web=info,sqlx=warn"

/-- Which records the service writes: a variable can say so, and else its settings do. -/
def filter (env : Environment) (settings : Settings) : LogFilter :=
  .read ((env.get? "RUST_LOG").getD
    (if settings.logLevel.isEmpty then standardFilter else settings.logLevel))

def written (env : Environment) (settings : Settings) (records : List LogRecord) : List LogRecord :=
  records.filter (filter env settings).admits

end Service

end JobDesk
