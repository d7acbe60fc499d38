import JobDesk.Job.Status
import JobDesk.Log.Record

/-!
# Coordinator notices — what the coordinator reports

The coordinator reports what it did to a job and which statuses it saw while waiting for one.
-/

namespace JobDesk.Coordinator

inductive Notice where
  | submitted (id : Int64) (size : Nat)
  | cancellationRequested (id : Int64)
  | pendingCancellationRequested (id : Int64)
  | noLongerPending (id : Int64)
  | disappeared (id : Int64)
  | seen (id : Int64) (code : Int16)
  | wasCancelled (id : Int64)
  | ended (id : Int64) (code : Int16)
  | shuttingDown
  deriving DecidableEq, Inhabited

namespace Notice

def level : Notice → LogLevel
  | disappeared _ => .warn
  | seen _ _ => .debug
  | ended _ _ => .error
  | _ => .info

def message : Notice → String
  | submitted id size => s!"Submitted search job {id.toInt} ({size} byte config)"
  | cancellationRequested id => s!"Requested cancellation of search job {id.toInt}"
  | pendingCancellationRequested id => s!"Requested cancellation of pending search job {id.toInt}"
  | noLongerPending id =>
    s!"Search job {id.toInt} is no longer pending, cancellation not requested"
  | disappeared id => s!"Search job {id.toInt} disappeared while waiting"
  | seen id code => s!"Search job {id.toInt} is {Status.label code}"
  | wasCancelled id => s!"Search job {id.toInt} was cancelled"
  | ended id code => s!"Search job {id.toInt} ended with status {Status.label code}"
  | shuttingDown => "Job coordinator shutting down"

def record (notice : Notice) : LogRecord :=
  ⟨notice.level, "search_jobs::services::coordinator", notice.message⟩

end Notice

end JobDesk.Coordinator
