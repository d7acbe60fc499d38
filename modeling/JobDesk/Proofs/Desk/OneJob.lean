import JobDesk.Proofs.Desk.Erasure
import JobDesk.Proofs.Desk.Views

/-!
# One job — what those at work on a job can tell of a desk

A call and a wait are about one job each, and only shutdown and closing are about all of them.
Desks are the same to those at work on a job if they agree in its row, in its waits and in what is
shut down or closed.  What is about the job goes the same way at both, and what is about another one
changes nothing that they could tell.
-/

namespace JobDesk

open Coordinator (Notice Outcome Signals WaitState)
open MemoryStore (SameButReads)

/-! ## 1. Jobs and names -/

/-- The job that each name is at work on, of callers and of waits; a name without one stands for
somebody who closes the table. -/
abbrev Roster := String → Option Int64

def Roster.isElsewhere (roster : Roster) (id : Int64) (name : String) : Bool :=
  (roster name).any (· != id)

def TableAction.job? : TableAction → Option Int64
  | .setStatus id _ | .setStatusIf id _ _ | .fetchStatus id | .fetchJob id | .setCode id _
  | .delete id => some id
  | .insert _ | .close => none

namespace Event

def job? (roster : Roster) : Event → Option Int64
  | .table action => action.job?
  | .cancel id | .cancelIfPending id | .status id | .fetch id | .wait _ id _ _ => some id
  | .wake name | .abandon name | .drop name => roster name
  | .submit _ | .shutDown => none

def keepsTo (roster : Roster) : Event → Bool
  | .submit _ | .table (.insert _) => false
  | .wait name id _ _ => roster name == some id
  | _ => true

end Event

def Step.toldOn (id : Int64) (step : Step) : Answer × List Notice × List EndedWait :=
  (step.answer, step.notices, step.ended.filter (·.id == id))

/-! ## 2. Tables -/

namespace MemoryStore

variable {α : Type} {store other : MemoryStore} {id key : Int64} {action : TableAction}

structure SameFor (id : Int64) (store other : MemoryStore) : Prop where
  isClosed : store.isClosed = other.isClosed
  job? : store.job? id = other.job? id

theorem SameFor.refl (id : Int64) (store : MemoryStore) : store.SameFor id store := ⟨rfl, rfl⟩

theorem SameFor.symm (h : store.SameFor id other) : other.SameFor id store :=
  ⟨h.isClosed.symm, h.job?.symm⟩

theorem SameFor.trans {third : MemoryStore} (h : store.SameFor id other)
    (hnext : other.SameFor id third) : store.SameFor id third :=
  ⟨h.isClosed.trans hnext.isClosed, h.job?.trans hnext.job?⟩

theorem SameButReads.sameFor (h : SameButReads store other) (id : Int64) :
    store.SameFor id other :=
  ⟨h.isClosed.symm, h.job? id⟩

theorem SameFor.status? (h : store.SameFor id other) : store.status? id = other.status? id :=
  congrArg (Option.map Job.status) h.job?

theorem SameFor.setCode (h : store.SameFor id other) (code : Int16) :
    (store.setCode id code).SameFor id (other.setCode id code) :=
  ⟨h.isClosed, by rw [job?_setCode, job?_setCode, h.job?]⟩

theorem SameFor.whenOpen (h : store.SameFor id other) {ours theirs : α × MemoryStore}
    (hvalue : ours.1 = theirs.1) (hafter : ours.2.SameFor id theirs.2) :
    SameResult (SameFor id) (store.whenOpen ours) (other.whenOpen theirs) := by
  unfold MemoryStore.whenOpen
  rw [h.isClosed]
  split
  · exact ⟨rfl, h⟩
  · exact ⟨congrArg Except.ok hvalue, hafter⟩

theorem SameFor.setStatus (h : store.SameFor id other) (status : Status) :
    SameResult (SameFor id) (JobStore.setStatus store id status)
      (JobStore.setStatus other id status) :=
  h.whenOpen rfl (h.setCode status.code)

theorem SameFor.setStatusIf (h : store.SameFor id other) (expected new : Status) :
    SameResult (SameFor id) (JobStore.setStatusIf store id expected new)
      (JobStore.setStatusIf other id expected new) := by
  have hstatus := h.status?
  apply h.whenOpen
  · rw [hstatus]
    split <;> rfl
  · rw [hstatus]
    split
    · exact h.setCode new.code
    · exact h

theorem SameFor.fetchStatus (h : store.SameFor id other) :
    SameResult (SameFor id) (JobStore.fetchStatus store id) (JobStore.fetchStatus other id) :=
  h.whenOpen h.status? ⟨h.isClosed, h.job?⟩

theorem SameFor.fetchJob (h : store.SameFor id other) :
    SameResult (SameFor id) (JobStore.fetchJob store id) (JobStore.fetchJob other id) :=
  h.whenOpen h.job? h

theorem ReadsAlike.sameFor (id : Int64) : ReadsAlike (SameFor id) id where
  isClosed h := h.isClosed
  status? h := h.status?
  fetchStatus h := h.fetchStatus

/-- What is done to a job, or to all of them, does the same at both tables. -/
theorem SameFor.act (h : store.SameFor id other) (hjob : action.job?.any (· != id) = false)
    (hkeeps : ∀ payload, action ≠ .insert payload) :
    (Desk.act store action).1 = (Desk.act other action).1 ∧
      (Desk.act store action).2.SameFor id (Desk.act other action).2 := by
  have hsame : ∀ key, action.job? = some key → key = id := by
    intro key hkey
    rw [hkey] at hjob
    simpa using hjob
  cases action with
  | insert payload => exact absurd rfl (hkeeps payload)
  | setStatus key status =>
    obtain rfl := hsame key rfl
    exact ⟨congrArg (Desk.storeAnswer _) (h.setStatus status).result, (h.setStatus status).related⟩
  | setStatusIf key expected new =>
    obtain rfl := hsame key rfl
    have hswap := h.setStatusIf expected new
    exact ⟨congrArg (Desk.storeAnswer .flag) hswap.result, hswap.related⟩
  | fetchStatus key =>
    obtain rfl := hsame key rfl
    exact ⟨congrArg (Desk.storeAnswer .code) h.fetchStatus.result, h.fetchStatus.related⟩
  | fetchJob key =>
    obtain rfl := hsame key rfl
    exact ⟨congrArg (Desk.storeAnswer .job) h.fetchJob.result, h.fetchJob.related⟩
  | setCode key code =>
    obtain rfl := hsame key rfl
    exact ⟨rfl, h.setCode code⟩
  | delete key =>
    obtain rfl := hsame key rfl
    refine ⟨rfl, h.isClosed, ?_⟩
    simp only [Desk.act, job?_delete, h.job?]
  | close => exact ⟨rfl, rfl, h.job?⟩

theorem sameFor_setCode (hkey : key ≠ id) (store : MemoryStore) (code : Int16) :
    store.SameFor id (store.setCode key code) := by
  refine ⟨rfl, ?_⟩
  rw [job?_setCode]
  simp only [if_neg hkey.symm, Option.map_id']

theorem sameFor_whenOpen {operation : α × MemoryStore} (h : store.SameFor id operation.2) :
    store.SameFor id (store.whenOpen operation).2 := by
  rcases store.whenOpen_spec operation with ⟨heq, -⟩ | ⟨heq, -⟩
  · rw [heq]
    exact .refl id store
  · rw [heq]
    exact h

theorem sameFor_act (hjob : action.job? = some key) (hkey : key ≠ id) (store : MemoryStore) :
    store.SameFor id (Desk.act store action).2 := by
  cases action with
  | insert | close => cases hjob
  | setStatus =>
    obtain rfl := Option.some.inj hjob
    exact sameFor_whenOpen (sameFor_setCode hkey store _)
  | setStatusIf =>
    obtain rfl := Option.some.inj hjob
    apply sameFor_whenOpen
    split
    · exact sameFor_setCode hkey store _
    · exact .refl id store
  | fetchStatus => exact sameFor_whenOpen ⟨rfl, rfl⟩
  | fetchJob => exact sameFor_whenOpen (.refl id store)
  | setCode =>
    obtain rfl := Option.some.inj hjob
    exact sameFor_setCode hkey store _
  | delete =>
    obtain rfl := Option.some.inj hjob
    refine ⟨rfl, ?_⟩
    simp only [Desk.act, job?_delete, if_neg hkey.symm]

end MemoryStore

/-! ## 3. Desks -/

structure Desk.SameFor (id : Int64) (desk other : Desk) : Prop where
  coordinator : desk.coordinator = other.coordinator
  store : desk.store.SameFor id other.store
  waiters : desk.waiters.filter (·.id == id) = other.waiters.filter (·.id == id)

structure Step.SameFor (id : Int64) (step other : Step) : Prop where
  told : step.toldOn id = other.toldOn id
  desk : step.desk.SameFor id other.desk

namespace Desk

variable {α : Type} {roster : Roster} {desk other : Desk} {waiter : Waiter} {id : Int64}
variable {name : String} {event : Event} {errand : Errand}

def KeepsTo (roster : Roster) (desk : Desk) : Prop :=
  ∀ waiter ∈ desk.waiters, roster waiter.name = some waiter.id

theorem SameFor.refl (id : Int64) (desk : Desk) : desk.SameFor id desk :=
  ⟨rfl, .refl id desk.store, rfl⟩

theorem SameFor.symm (h : desk.SameFor id other) : other.SameFor id desk :=
  ⟨h.coordinator.symm, h.store.symm, h.waiters.symm⟩

theorem SameFor.trans {third : Desk} (h : desk.SameFor id other) (hnext : other.SameFor id third) :
    desk.SameFor id third :=
  ⟨h.coordinator.trans hnext.coordinator, h.store.trans hnext.store,
    h.waiters.trans hnext.waiters⟩

theorem SameFor.sameIn (h : desk.SameFor id other) :
    desk.SameIn (MemoryStore.SameFor id) (·.id == id) other :=
  ⟨h.coordinator, h.store, h.waiters⟩

theorem SameFor.idle (h : desk.SameFor id other) : desk.idle.SameFor id other.idle := ⟨rfl, h⟩

/-- A name that is not at work on another job stands for the same waits. -/
theorem SameFor.named (h : desk.SameFor id other) (hdesk : desk.KeepsTo roster)
    (hother : other.KeepsTo roster) (hname : roster.isElsewhere id name = false) :
    desk.named name = other.named name := by
  have hwaits : ∀ {desk : Desk}, desk.KeepsTo roster →
      desk.named name = (desk.waiters.filter (·.id == id)).filter (·.name == name) := by
    intro desk hdesk
    rw [Desk.named, List.filter_filter]
    refine List.filter_congr fun waiter hmem => ?_
    by_cases hsame : waiter.name = name
    · rw [Roster.isElsewhere, ← hsame, hdesk waiter hmem] at hname
      have hid : waiter.id = id := by simpa using hname
      simp [hsame, hid]
    · simp [hsame]
  rw [hwaits hdesk, hwaits hother, h.waiters]

theorem id_of_head? (hdesk : desk.KeepsTo roster) (hname : roster.isElsewhere id name = false)
    (hhead : (desk.named name).head? = some waiter) : waiter.id = id := by
  have hmem := (List.mem_filter.mp (List.mem_of_mem_head? hhead)).1
  rw [Roster.isElsewhere, ← name_of_head? hhead, hdesk waiter hmem] at hname
  simpa using hname

/-! ## 4. Operations of a coordinator -/

/-- An operation of the coordinator on the same job does the same at both desks. -/
theorem SameFor.settle (h : desk.SameFor id other) {ours theirs : StoreResult MemoryStore α}
    (hsame : SameResult (MemoryStore.SameFor id) ours theirs) (answer : α → Answer)
    (notices : α → List Notice) :
    (desk.settle answer (desk.coordinator.whenRunning desk.store fun _ =>
      Outcome.ofStore ours notices)).SameFor id
    (other.settle answer (other.coordinator.whenRunning other.store fun _ =>
      Outcome.ofStore theirs notices)) := by
  rw [h.coordinator]
  unfold Coordinator.whenRunning
  split
  · exact ⟨rfl, h.coordinator, h.store, h.waiters⟩
  · obtain ⟨result, store⟩ := ours
    obtain ⟨_, after⟩ := theirs
    obtain ⟨rfl, hafter⟩ := hsame
    cases result <;> exact ⟨rfl, h.coordinator, hafter, h.waiters⟩

theorem sameFor_settle {result : StoreResult MemoryStore α} (h : desk.store.SameFor id result.2)
    (answer : α → Answer) (notices : α → List Notice) :
    desk.SameFor id (desk.settle answer (desk.coordinator.whenRunning desk.store fun _ =>
      Outcome.ofStore result notices)).desk := by
  refine ⟨rfl, ?_, rfl⟩
  unfold Coordinator.whenRunning
  split
  · exact .refl id desk.store
  · rw [Desk.settle, Coordinator.store_ofStore]
    exact h

/-! ## 5. Waits on a job -/

theorem sameFor_of_sameIn {step after : Step}
    (h : step.SameIn (MemoryStore.SameFor id) (·.id == id) after) : step.SameFor id after := by
  refine ⟨?_, h.desk.coordinator, h.desk.store, h.desk.waiters⟩
  rw [Step.toldOn, Step.toldOn, h.answer, h.notices, h.ended]

theorem SameFor.read (h : desk.SameFor id other) (hid : waiter.id = id) :
    (desk.read waiter).SameFor id (other.read waiter) := by
  subst hid
  exact sameFor_of_sameIn (h.sameIn.read (.sameFor waiter.id))

theorem SameFor.ask (h : desk.SameFor id other) (hid : waiter.id = id) :
    (desk.ask waiter).SameFor id (other.ask waiter) := by
  subst hid
  exact sameFor_of_sameIn (h.sameIn.ask (.sameFor waiter.id))

section

variable (h : desk.SameFor id other) (hdesk : desk.KeepsTo roster) (hother : other.KeepsTo roster)
variable (hname : roster.isElsewhere id name = false)

include hdesk hname in
theorem readsAlike_of_head? (hhead : (desk.named name).head? = some waiter) :
    MemoryStore.ReadsAlike (MemoryStore.SameFor id) waiter.id := by
  rw [id_of_head? hdesk hname hhead]
  exact .sameFor id

include h hdesk hother hname

theorem SameFor.wake :
    (desk.apply (.wake name)).SameFor id (other.apply (.wake name)) :=
  sameFor_of_sameIn (h.sameIn.wake (h.named hdesk hother hname) fun _ =>
    readsAlike_of_head? hdesk hname)

theorem SameFor.elapse : (desk.elapse name).SameFor id (other.elapse name) :=
  sameFor_of_sameIn (h.sameIn.elapse (h.named hdesk hother hname) fun _ =>
    readsAlike_of_head? hdesk hname)

theorem SameFor.fire : (desk.fire name).SameFor id (other.fire name) :=
  sameFor_of_sameIn (h.sameIn.fire (h.named hdesk hother hname))

theorem SameFor.look : (desk.look name).SameFor id (other.look name) :=
  sameFor_of_sameIn (h.sameIn.look (h.named hdesk hother hname))

theorem SameFor.answerRead : (desk.answerRead name).SameFor id (other.answerRead name) :=
  sameFor_of_sameIn (h.sameIn.answerRead (h.named hdesk hother hname) fun _ =>
    readsAlike_of_head? hdesk hname)

end

theorem filter_ended? (waiters : List Waiter) (id : Int64) :
    (waiters.filterMap ended?).filter (·.id == id) =
      (waiters.filter (·.id == id)).filterMap ended? := by
  rw [List.filter_filterMap, List.filterMap_filter]
  refine List.filterMap_congr fun waiter _ => ?_
  unfold ended?
  by_cases hid : waiter.id = id <;> cases waiter.state <;> simp [hid]

theorem SameFor.shutDown (h : desk.SameFor id other) :
    desk.shutDown.SameFor id other.shutDown := by
  obtain ⟨coordinator, store, waiters⟩ := desk
  obtain ⟨_, after, others⟩ := other
  obtain ⟨rfl, hstore, hwaiters⟩ := h
  have hsignalled : ∀ (desk : Desk) (waiters : List Waiter),
      (waiters.map desk.signal).filter (·.id == id) =
        (waiters.filter (·.id == id)).map desk.signal := fun desk waiters => List.filter_map
  unfold Desk.shutDown
  split
  · exact ⟨rfl, rfl, hstore, hwaiters⟩
  · refine ⟨?_, rfl, hstore, ?_⟩
    · simp only [Step.toldOn, filter_ended?]
      rw [hsignalled, hsignalled, hwaiters]
      rfl
    · simp only
      rw [List.filter_comm, hsignalled, hwaiters, ← hsignalled, List.filter_comm]
      rfl

/-- Whatever is about a job, or about all of them, happens in the same way at both desks. -/
theorem SameFor.apply (h : desk.SameFor id other) (hdesk : desk.KeepsTo roster)
    (hother : other.KeepsTo roster) (hkeeps : event.keepsTo roster = true)
    (hevent : (event.job? roster).any (· != id) = false) :
    (desk.apply event).SameFor id (other.apply event) := by
  have hsame : ∀ key, event.job? roster = some key → key = id := by
    intro key hkey
    rw [hkey] at hevent
    simpa using hevent
  cases event with
  | table action =>
    have haction : ∀ payload, action ≠ .insert payload := by
      rintro payload rfl
      cases hkeeps
    obtain ⟨hanswer, hafter⟩ := h.store.act hevent haction
    refine ⟨?_, h.coordinator, hafter, h.waiters⟩
    exact Prod.ext hanswer rfl
  | submit => cases hkeeps
  | cancel key =>
    obtain rfl := hsame key rfl
    exact h.settle (h.store.setStatus .cancelling) _ _
  | cancelIfPending key =>
    obtain rfl := hsame key rfl
    exact h.settle (h.store.setStatusIf .pending .cancelling) _ _
  | status key =>
    obtain rfl := hsame key rfl
    exact h.settle h.store.fetchStatus _ _
  | fetch key =>
    obtain rfl := hsame key rfl
    exact h.settle h.store.fetchJob _ _
  | shutDown => exact h.shutDown
  | wait name key =>
    obtain rfl := hsame key rfl
    simp only [Desk.apply, h.coordinator]
    exact h.read rfl
  | wake name => exact h.wake hdesk hother hevent
  | abandon name => exact sameFor_of_sameIn (h.sameIn.abandon (h.named hdesk hother hevent))
  | drop name => exact sameFor_of_sameIn (h.sameIn.drop (h.named hdesk hother hevent))

theorem SameFor.takeEffect (h : desk.SameFor id other) (hdesk : desk.KeepsTo roster)
    (hother : other.KeepsTo roster) (hkeeps : errand.event.keepsTo roster = true)
    (herrand : (errand.event.job? roster).any (· != id) = false) :
    (desk.takeEffect errand).SameFor id (other.takeEffect errand) := by
  have hreopened : desk.reopened.SameFor id other.reopened := by
    refine ⟨?_, ⟨rfl, h.store.job?⟩, h.waiters⟩
    rw [reopened, reopened, h.coordinator]
  obtain ⟨htold, -, hstore, -⟩ := hreopened.apply hdesk hother hkeeps herrand
  refine ⟨htold, h.coordinator, ⟨?_, hstore.job?⟩, h.waiters⟩
  simp only [Desk.takeEffect, h.store.isClosed, hstore.isClosed]

theorem isEarly_wake (desk : Desk) (name : String) :
    desk.isEarly (.wake name) = (desk.named name).any (·.state.isReading) := by
  rw [Desk.isEarly, Desk.named, List.any_filter]
  simp only [Event.wakes, Bool.beq_comm]

theorem SameFor.isEarly (h : desk.SameFor id other) (hdesk : desk.KeepsTo roster)
    (hother : other.KeepsTo roster) (hevent : (event.job? roster).any (· != id) = false) :
    desk.isEarly event = other.isEarly event := by
  by_cases hwake : ∃ name, event = .wake name
  · obtain ⟨name, rfl⟩ := hwake
    rw [isEarly_wake, isEarly_wake, h.named hdesk hother hevent]
  · have hspared : ∀ name, event ≠ .wake name := fun name heq => hwake ⟨name, heq⟩
    rw [isEarly_of_ne_wake hspared, isEarly_of_ne_wake hspared]

/-! ## 6. Waits that come back -/

def Returns (desk : Desk) (waiter : Waiter) (after : Desk) : Prop :=
  ∃ back, after.waiters = desk.waiters ++ back ∧
    ∀ other ∈ back, other.name = waiter.name ∧ other.id = waiter.id

theorem returns_putBack (desk : Desk) (waiter : Waiter) (notices : List Notice) :
    desk.Returns waiter (desk.putBack waiter notices).desk := by
  refine ⟨_, (putBack_spec desk waiter notices).2.2, fun other hmem => ?_⟩
  split at hmem
  · cases hmem
  · rw [List.mem_singleton.mp hmem]
    exact ⟨rfl, rfl⟩

theorem returns_read (desk : Desk) (waiter : Waiter) :
    desk.Returns waiter (desk.read waiter).desk := by
  obtain ⟨store, notices, hread⟩ := read_eq desk waiter
  rw [hread]
  exact returns_putBack { desk with store := store } _ notices

theorem returns_ask (desk : Desk) (waiter : Waiter) :
    desk.Returns waiter (desk.ask waiter).desk := by
  unfold ask
  split
  · exact desk.returns_read waiter
  · split
    · exact returns_putBack { desk with store := _ } waiter []
    · exact desk.returns_putBack waiter []

/-- A step of the wait under a name leaves the others where they are. -/
def Serves (desk : Desk) (name : String) (after : Desk) : Prop :=
  after.waiters = desk.waiters ∨
    ∃ waiter ∈ desk.waiters, waiter.name = name ∧ (desk.without name).Returns waiter after

theorem serves_of_head? {after : Desk} (hhead : (desk.named name).head? = some waiter)
    (h : (desk.without name).Returns waiter after) : desk.Serves name after :=
  .inr ⟨waiter, (List.mem_filter.mp (List.mem_of_mem_head? hhead)).1, name_of_head? hhead, h⟩

theorem serves_wake (desk : Desk) (name : String) :
    desk.Serves name (desk.apply (.wake name)).desk := by
  cases hhead : (desk.named name).head? with
  | none =>
    simp only [Desk.apply, take?_eq, hhead]
    exact .inl rfl
  | some waiter =>
    rw [apply_wake hhead]
    exact serves_of_head? hhead ((desk.without name).returns_read _)

theorem serves_abandon (desk : Desk) (name : String) :
    desk.Serves name (desk.apply (.abandon name)).desk := by
  cases hhead : (desk.named name).head? with
  | none =>
    simp only [Desk.apply, take?_eq, hhead]
    exact .inl rfl
  | some waiter =>
    rw [apply_abandon hhead]
    exact serves_of_head? hhead ((desk.without name).returns_putBack _ _)

theorem serves_drop (desk : Desk) (name : String) :
    desk.Serves name (desk.apply (.drop name)).desk := by
  simp only [Desk.apply, take?_eq]
  cases hhead : (desk.named name).head? with
  | none => exact .inl rfl
  | some waiter =>
    exact serves_of_head? hhead ⟨[], (List.append_nil _).symm, fun _ hmem => absurd hmem
      List.not_mem_nil⟩

theorem serves_elapse (desk : Desk) (name : String) :
    desk.Serves name (desk.elapse name).desk := by
  unfold elapse
  rw [take?_eq]
  cases hhead : (desk.named name).head? with
  | none => exact .inl rfl
  | some waiter =>
    simp only [Option.map_some]
    split
    · exact serves_of_head? hhead ((desk.without name).returns_ask _)
    · exact .inl rfl

theorem serves_fire (desk : Desk) (name : String) : desk.Serves name (desk.fire name).desk := by
  unfold fire
  rw [take?_eq]
  cases hhead : (desk.named name).head? with
  | none => exact .inl rfl
  | some waiter => exact serves_of_head? hhead ((desk.without name).returns_putBack _ _)

theorem serves_look (desk : Desk) (name : String) : desk.Serves name (desk.look name).desk := by
  unfold look
  rw [take?_eq]
  cases hhead : (desk.named name).head? with
  | none => exact .inl rfl
  | some waiter => exact serves_of_head? hhead ((desk.without name).returns_putBack _ _)

theorem serves_answerRead (desk : Desk) (name : String) :
    desk.Serves name (desk.answerRead name).desk := by
  unfold answerRead
  rw [take?_eq]
  cases hhead : (desk.named name).head? with
  | none => exact .inl rfl
  | some waiter =>
    simp only [Option.map_some]
    split
    · exact serves_of_head? hhead ((desk.without name).returns_putBack _ _)
    · exact .inl rfl

theorem Returns.keepsTo {after : Desk} (h : desk.Returns waiter after)
    (hdesk : desk.KeepsTo roster) (hwaiter : roster waiter.name = some waiter.id) :
    after.KeepsTo roster := by
  obtain ⟨back, hwaiters, hback⟩ := h
  intro other hmem
  rw [hwaiters] at hmem
  rcases List.mem_append.mp hmem with hold | hnew
  · exact hdesk other hold
  · obtain ⟨hname, hid⟩ := hback other hnew
    rw [hname, hid, hwaiter]

theorem Serves.keepsTo {after : Desk} (h : desk.Serves name after) (hdesk : desk.KeepsTo roster) :
    after.KeepsTo roster := by
  rcases h with hsame | ⟨waiter, hmem, -, hreturns⟩
  · intro other hother
    exact hdesk other (hsame ▸ hother)
  · exact hreturns.keepsTo (fun other hother => hdesk other (mem_without hother))
      (hdesk waiter hmem)

theorem Returns.waiters_filter {after : Desk} (h : desk.Returns waiter after)
    (hid : waiter.id ≠ id) :
    after.waiters.filter (·.id == id) = desk.waiters.filter (·.id == id) := by
  obtain ⟨back, hwaiters, hback⟩ := h
  have hnone : back.filter (·.id == id) = [] :=
    List.filter_eq_nil_iff.mpr fun other hmem => by simpa [(hback other hmem).2] using hid
  rw [hwaiters, List.filter_append, hnone, List.append_nil]

/-- A step of a wait on another job is nothing to the waits on this one. -/
theorem Serves.waiters_filter {after : Desk} (h : desk.Serves name after)
    (hdesk : desk.KeepsTo roster) (hname : roster.isElsewhere id name = true) :
    after.waiters.filter (·.id == id) = desk.waiters.filter (·.id == id) := by
  have helse : ∀ waiter ∈ desk.waiters, waiter.name = name → waiter.id ≠ id := by
    intro waiter hmem hsame
    rw [Roster.isElsewhere, ← hsame, hdesk waiter hmem] at hname
    simpa using hname
  rcases h with hsame | ⟨waiter, hmem, hsame, hreturns⟩
  · rw [hsame]
  · rw [hreturns.waiters_filter (helse waiter hmem hsame), Desk.without, List.filter_filter]
    refine List.filter_congr fun other hother => ?_
    by_cases hother' : other.name = name
    · simp [hother', helse other hother hother']
    · simp [hother']

/-! ## 7. What is about other jobs -/

theorem KeepsTo.apply (h : desk.KeepsTo roster) (hkeeps : event.keepsTo roster = true) :
    (desk.apply event).desk.KeepsTo roster := by
  cases event with
  | table | submit | cancel | cancelIfPending | status | fetch => exact h
  | shutDown =>
    intro waiter hmem
    obtain ⟨old, hold, ⟨hname, hid⟩, -⟩ := mem_shutDown hmem
    rw [← hname, ← hid]
    exact h old hold
  | wait => exact (desk.returns_read _).keepsTo h (eq_of_beq hkeeps)
  | wake name => exact (desk.serves_wake name).keepsTo h
  | abandon name => exact (desk.serves_abandon name).keepsTo h
  | drop name => exact (desk.serves_drop name).keepsTo h

theorem sameFor_of_alike {after : Desk} (h : desk.Alike after)
    (hwaiters : after.waiters.filter (·.id == id) = desk.waiters.filter (·.id == id)) :
    desk.SameFor id after :=
  ⟨h.coordinator, h.store.sameFor id, hwaiters.symm⟩

/-- What is about another job is nothing to those at work on this one. -/
theorem sameFor_apply (hdesk : desk.KeepsTo roster)
    (hevent : (event.job? roster).any (· != id) = true) :
    desk.SameFor id (desk.apply event).desk := by
  have hother : ∀ key, event.job? roster = some key → key ≠ id := by
    intro key hkey
    rw [hkey] at hevent
    simpa using hevent
  cases event with
  | submit | shutDown => cases hevent
  | table action =>
    cases hjob : action.job? with
    | none =>
      rw [Event.job?, hjob] at hevent
      cases hevent
    | some key =>
      have hkey := hother key hjob
      exact ⟨rfl, MemoryStore.sameFor_act hjob hkey desk.store, rfl⟩
  | cancel key =>
    have hstore := @MemoryStore.sameFor_act id key (.setStatus key .cancelling) rfl (hother key rfl)
    exact sameFor_settle (hstore desk.store) _ _
  | cancelIfPending key =>
    have hstore := @MemoryStore.sameFor_act id key (.setStatusIf key .pending .cancelling) rfl
      (hother key rfl)
    exact sameFor_settle (hstore desk.store) _ _
  | status key =>
    have hstore := @MemoryStore.sameFor_act id key (.fetchStatus key) rfl (hother key rfl)
    exact sameFor_settle (hstore desk.store) _ _
  | fetch key =>
    have hstore := @MemoryStore.sameFor_act id key (.fetchJob key) rfl (hother key rfl)
    exact sameFor_settle (hstore desk.store) _ _
  | wait name key =>
    refine sameFor_of_alike (apply_alike_of_isWait rfl desk) ?_
    exact (desk.returns_read _).waiters_filter (hother key rfl)
  | wake name =>
    refine sameFor_of_alike (apply_alike_of_isWait rfl desk) ?_
    exact (desk.serves_wake name).waiters_filter hdesk hevent
  | abandon name =>
    refine sameFor_of_alike (apply_alike_of_isWait rfl desk) ?_
    exact (desk.serves_abandon name).waiters_filter hdesk hevent
  | drop name =>
    refine sameFor_of_alike (apply_alike_of_isWait rfl desk) ?_
    exact (desk.serves_drop name).waiters_filter hdesk hevent

theorem sameFor_takeEffect (hdesk : desk.KeepsTo roster)
    (herrand : (errand.event.job? roster).any (· != id) = true) :
    desk.SameFor id (desk.takeEffect errand).desk := by
  have hreopened : desk.reopened.KeepsTo roster := hdesk
  obtain ⟨-, ⟨hclosed, hjob⟩, -⟩ := sameFor_apply hreopened herrand
  have hopen : (desk.reopened.apply errand.event).desk.store.isClosed = false := hclosed.symm
  refine ⟨rfl, ⟨?_, hjob⟩, rfl⟩
  simp only [takeEffect, hopen, Bool.or_false]

end Desk

end JobDesk
