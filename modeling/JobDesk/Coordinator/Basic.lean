import JobDesk.Coordinator.Error
import JobDesk.Coordinator.Notice
import JobDesk.Job.WaitingSet
import JobDesk.Payload.Basic
import JobDesk.Span
import JobDesk.Store.Basic

/-!
# Coordinator — submitting, cancelling and reading jobs

The coordinator keeps no job itself: every operation asks the store once and gives its answer.
After shutdown every operation fails before it asks the store.
-/

namespace JobDesk

/-- How a coordinator waits: the time between two status reads, and the codes it goes on with. -/
structure CoordinatorSettings where
  pollInterval : Span := .ofMillis 500
  waiting : WaitingSet := .standard
  deriving Inhabited

structure Coordinator where
  settings : CoordinatorSettings := {}
  isShutDown : Bool := false
  deriving Inhabited

namespace Coordinator

/-- What came of an operation: its result, the store after it and the reports made. -/
structure Outcome (σ α : Type) where
  result : Except JobError α
  store : σ
  notices : List Notice := []

def whenRunning {σ α : Type} (c : Coordinator) (store : σ) (operation : Unit → Outcome σ α) :
    Outcome σ α :=
  if c.isShutDown then ⟨.error .shutDown, store, []⟩ else operation ()

/-- What came of asking the store; `notices` says what is reported of an answer. -/
def Outcome.ofStore {σ α : Type} (answer : StoreResult σ α) (notices : α → List Notice) :
    Outcome σ α :=
  match answer with
  | (.ok value, store) => ⟨.ok value, store, notices value⟩
  | (.error error, store) => ⟨.error (.store error), store, []⟩

variable {σ : Type} [JobStore σ]

def submit (c : Coordinator) (store : σ) (config : Json) : Outcome σ Int64 :=
  c.whenRunning store fun _ =>
    match Payload.encode config with
    | .error fault => ⟨.error (.encoding fault.message), store, []⟩
    | .ok payload =>
      .ofStore (JobStore.insert store payload) fun id => [.submitted id payload.size]

def cancel (c : Coordinator) (store : σ) (id : Int64) : Outcome σ Unit :=
  c.whenRunning store fun _ =>
    .ofStore (JobStore.setStatus store id .cancelling) fun _ => [.cancellationRequested id]

/-- Requests the cancellation of a job if nobody has picked it up; whether it was requested. -/
def cancelIfPending (c : Coordinator) (store : σ) (id : Int64) : Outcome σ Bool :=
  c.whenRunning store fun _ =>
    .ofStore (JobStore.setStatusIf store id .pending .cancelling) fun changed =>
      [if changed then .pendingCancellationRequested id else .noLongerPending id]

def status (c : Coordinator) (store : σ) (id : Int64) : Outcome σ (Option Int16) :=
  c.whenRunning store fun _ => .ofStore (JobStore.fetchStatus store id) fun _ => []

def fetch (c : Coordinator) (store : σ) (id : Int64) : Outcome σ (Option Job) :=
  c.whenRunning store fun _ => .ofStore (JobStore.fetchJob store id) fun _ => []

def shutDown (c : Coordinator) : Coordinator × List Notice :=
  if c.isShutDown then (c, []) else ({ c with isShutDown := true }, [.shuttingDown])

end Coordinator

end JobDesk
