import JobDesk.Coordinator.Notice
import JobDesk.Span

/-!
# Keeper notices — what is reported of the pool
-/

namespace JobDesk.Keeper

inductive Notice where
  | connecting (address : String)
  | connected
  | tableEnsured (table : String)
  | ready (table : String) (pollInterval : Span)
  | closing
  | closed
  | coordinator (notice : Coordinator.Notice)
  deriving DecidableEq, Inhabited

namespace Notice

def target : Notice → String
  | connecting _ | connected => "search_jobs::config::db"
  | tableEnsured _ => "search_jobs::db::job_repository"
  | _ => "search_jobs::services::pool_manager"

def message : Notice → String
  | connecting address => s!"Initializing database pool: {address}"
  | connected => "Database pool initialized successfully"
  | tableEnsured table => "Ensured search job table `" ++ table ++ "` exists"
  | ready table pollInterval =>
    "Job coordinator ready on table `" ++ table ++ "` (poll interval " ++ pollInterval.text ++ ")"
  | closing => "Closing database pool"
  | closed => "Database pool closed"
  | coordinator notice => notice.message

def record : Notice → LogRecord
  | coordinator notice => notice.record
  | notice => ⟨.info, notice.target, notice.message⟩

end Notice

end JobDesk.Keeper
