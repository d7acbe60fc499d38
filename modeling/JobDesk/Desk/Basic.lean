import JobDesk.Coordinator.Wait
import JobDesk.Store.Memory

/-!
# Desk — a coordinator, a job table in memory and everybody who uses them

Callers of the coordinator, workers that write to the table and waits that go on in between all act
on one desk, one event after the other.  `Desk.apply` says what an event gives back, what it
changes, what is reported and which waits it ends.
-/

namespace JobDesk

open Coordinator (Notice Outcome Signal Signals WaitState)

structure Waiter where
  name : String
  id : Int64
  /-- Whether the wait has been given up. -/
  token : Bool
  /-- Whether the wait can be given up. -/
  hasToken : Bool
  /-- Which signal it hears if it finds two. -/
  pick : Signal
  state : WaitState
  deriving Inhabited

inductive TableAction where
  | insert (payload : Bytes)
  | setStatus (id : Int64) (status : Status)
  | setStatusIf (id : Int64) (expected new : Status)
  | fetchStatus (id : Int64)
  | fetchJob (id : Int64)
  | setCode (id : Int64) (code : Int16)
  | delete (id : Int64)
  | close

inductive Event where
  | table (action : TableAction)
  | submit (config : Json)
  | cancel (id : Int64)
  | cancelIfPending (id : Int64)
  | status (id : Int64)
  | fetch (id : Int64)
  | shutDown
  /-- A wait begins; its token, if it has one, may have fired already.  What it picks among two
  signals is chosen with it. -/
  | wait (name : String) (id : Int64) (token : Option Bool) (pick : Signal := default)
  /-- The time to the next read of a wait has run out. -/
  | wake (name : String)
  /-- The token of a wait fires. -/
  | abandon (name : String)
  /-- A wait is dropped and never heard of again. -/
  | drop (name : String)

inductive Answer where
  | done
  | id (id : Int64)
  | flag (value : Bool)
  | code (code : Option Int16)
  | job (job : Option Job)
  | refused (error : JobError)
  | failed (error : StoreError)
  deriving DecidableEq, Inhabited

structure Desk where
  coordinator : Coordinator := {}
  store : MemoryStore := {}
  waiters : List Waiter := []
  deriving Inhabited

structure EndedWait where
  name : String
  id : Int64
  result : Except JobError Unit

structure Step where
  answer : Answer
  desk : Desk
  notices : List Notice := []
  ended : List EndedWait := []

namespace Desk

/-! ## 1. The table -/

def storeAnswer {α : Type} (answer : α → Answer) : Except StoreError α → Answer
  | .ok value => answer value
  | .error error => .failed error

def act (store : MemoryStore) : TableAction → Answer × MemoryStore
  | .insert payload =>
    let (result, store) := JobStore.insert store payload
    (storeAnswer .id result, store)
  | .setStatus id status =>
    let (result, store) := JobStore.setStatus store id status
    (storeAnswer (fun _ => .done) result, store)
  | .setStatusIf id expected new =>
    let (result, store) := JobStore.setStatusIf store id expected new
    (storeAnswer .flag result, store)
  | .fetchStatus id =>
    let (result, store) := JobStore.fetchStatus store id
    (storeAnswer .code result, store)
  | .fetchJob id =>
    let (result, store) := JobStore.fetchJob store id
    (storeAnswer .job result, store)
  | .setCode id code => (.done, store.setCode id code)
  | .delete id => (.done, store.delete id)
  | .close => (.done, store.close)

/-! ## 2. The coordinator -/

def settle {α : Type} (desk : Desk) (answer : α → Answer) (outcome : Outcome MemoryStore α) :
    Step where
  answer :=
    match outcome.result with
    | .ok value => answer value
    | .error error => .refused error
  desk := { desk with store := outcome.store }
  notices := outcome.notices

/-! ## 3. Waits -/

def signals (desk : Desk) (waiter : Waiter) : Signals :=
  ⟨waiter.token, desk.coordinator.isShutDown, waiter.pick⟩

def putBack (desk : Desk) (waiter : Waiter) (notices : List Notice) : Step :=
  match waiter.state with
  | .ended result =>
    { answer := .done, desk := desk, notices := notices
      ended := [⟨waiter.name, waiter.id, result⟩] }
  | _ =>
    { answer := .done, desk := { desk with waiters := desk.waiters ++ [waiter] }
      notices := notices }

def take? (desk : Desk) (name : String) : Option (Waiter × Desk) :=
  (desk.waiters.find? (·.name == name)).map fun waiter =>
    (waiter, { desk with waiters := desk.waiters.filter (·.name != name) })

def read (desk : Desk) (waiter : Waiter) : Step :=
  let (state, store, notices) :=
    waiter.state.read desk.coordinator.settings.waiting waiter.id (desk.signals waiter) desk.store
  { desk with store := store }.putBack { waiter with state := state } notices

def signal (desk : Desk) (waiter : Waiter) : Waiter :=
  { waiter with state := waiter.state.onSignal waiter.id (desk.signals waiter) }

def ended? (waiter : Waiter) : Option EndedWait :=
  match waiter.state with
  | .ended result => some ⟨waiter.name, waiter.id, result⟩
  | _ => none

/-- The shutdown of the coordinator, which ends every wait that sleeps.  A second one tells nobody
anything. -/
def shutDown (desk : Desk) : Step :=
  if desk.coordinator.isShutDown then { answer := .done, desk := desk }
  else
    let (coordinator, notices) := desk.coordinator.shutDown
    let desk := { desk with coordinator := coordinator }
    let waiters := desk.waiters.map desk.signal
    { answer := .done
      desk := { desk with waiters := waiters.filter fun waiter => (ended? waiter).isNone }
      notices := notices
      ended := waiters.filterMap ended? }

/-! ## 4. Events -/

def apply (desk : Desk) : Event → Step
  | .table action =>
    let (answer, store) := act desk.store action
    { answer := answer, desk := { desk with store := store } }
  | .submit config => desk.settle .id (desk.coordinator.submit desk.store config)
  | .cancel id => desk.settle (fun _ => .done) (desk.coordinator.cancel desk.store id)
  | .cancelIfPending id => desk.settle .flag (desk.coordinator.cancelIfPending desk.store id)
  | .status id => desk.settle .code (desk.coordinator.status desk.store id)
  | .fetch id => desk.settle .job (desk.coordinator.fetch desk.store id)
  | .shutDown => desk.shutDown
  | .wait name id token pick =>
    let signals : Signals := ⟨token.getD false, desk.coordinator.isShutDown, pick⟩
    -- The first read of a wait happens when it begins.
    desk.read
      ⟨name, id, token.getD false, token.isSome, pick, Coordinator.beginRead id signals none⟩
  | .wake name =>
    match desk.take? name with
    | some (waiter, desk) =>
      desk.read { waiter with state := waiter.state.onTimer waiter.id (desk.signals waiter) }
    | none => { answer := .done, desk := desk }
  | .abandon name =>
    match desk.take? name with
    | some (waiter, desk) => desk.putBack (desk.signal { waiter with token := waiter.hasToken }) []
    | none => { answer := .done, desk := desk }
  | .drop name =>
    match desk.take? name with
    | some (_, desk) => { answer := .done, desk := desk }
    | none => { answer := .done, desk := desk }

def run (desk : Desk) : List Event → List Step × Desk
  | [] => ([], desk)
  | event :: rest =>
    let step := desk.apply event
    let (steps, desk) := run step.desk rest
    (step :: steps, desk)

end Desk

end JobDesk
