import JobDesk.Proofs.Coordinator.Simulation
import JobDesk.Proofs.Desk.Edits

/-!
# Counts — nobody can tell how many reads a table has answered

Two desks are alike if they differ at most in their waits and in the number of reads that their
tables have answered.  What is asked of the coordinator or of the table is answered and reported
alike at both, and leaves them alike.
-/

namespace JobDesk

open Coordinator (Notice Outcome)
open MemoryStore (SameButReads)

/-! ## 1. Tables -/

namespace MemoryStore

variable {α : Type} {store other : MemoryStore} {id : Int64}

theorem SameButReads.symm (h : SameButReads store other) : SameButReads other store := by
  unfold SameButReads at *
  rw [h]

theorem SameButReads.counted (store : MemoryStore) (reads : Nat) :
    SameButReads store { store with statusReads := reads } := rfl

/-- Two tables that are changed alike by something that neither reads nor changes the number of
reads. -/
theorem SameButReads.map (h : SameButReads store other) (change : MemoryStore → MemoryStore)
    (hchange : ∀ store : MemoryStore, ∀ reads,
      change { store with statusReads := reads } = { change store with statusReads := reads }) :
    SameButReads (change store) (change other) := by
  unfold SameButReads at h ⊢
  rw [h, hchange]

/-- Tables that are open or closed together let the same operations through. -/
theorem SameButReads.whenOpen (h : SameButReads store other) {ours theirs : α × MemoryStore}
    (hvalue : ours.1 = theirs.1) (hafter : SameButReads ours.2 theirs.2) :
    SameResult SameButReads (store.whenOpen ours) (other.whenOpen theirs) := by
  unfold MemoryStore.whenOpen
  rw [h.isClosed]
  split
  · exact ⟨rfl, h⟩
  · exact ⟨congrArg Except.ok hvalue, hafter⟩

theorem SameButReads.job? (h : SameButReads store other) (id : Int64) :
    store.job? id = other.job? id :=
  (h.sameRows.job? id).symm

theorem SameButReads.status? (h : SameButReads store other) (id : Int64) :
    store.status? id = other.status? id :=
  (h.sameRows.status? id).symm

theorem SameButReads.setCode (h : SameButReads store other) (id : Int64) (code : Int16) :
    SameButReads (store.setCode id code) (other.setCode id code) :=
  h.map (·.setCode id code) fun _ _ => rfl

theorem SameButReads.insert (h : SameButReads store other) (payload : Bytes) :
    SameResult SameButReads (JobStore.insert store payload) (JobStore.insert other payload) :=
  h.whenOpen (by rw [h.sameRows.lastId]) (h.map (·.append payload) fun _ _ => rfl)

theorem SameButReads.setStatus (h : SameButReads store other) (id : Int64) (status : Status) :
    SameResult SameButReads (JobStore.setStatus store id status)
      (JobStore.setStatus other id status) :=
  h.whenOpen rfl (h.setCode id status.code)

theorem SameButReads.setStatusIf (h : SameButReads store other) (id : Int64)
    (expected new : Status) :
    SameResult SameButReads (JobStore.setStatusIf store id expected new)
      (JobStore.setStatusIf other id expected new) := by
  have hstatus := h.status? id
  apply h.whenOpen
  · rw [hstatus]
    split <;> rfl
  · rw [hstatus]
    split
    · exact h.setCode id new.code
    · exact h

theorem SameButReads.fetchStatus (h : SameButReads store other) (id : Int64) :
    SameResult SameButReads (JobStore.fetchStatus store id) (JobStore.fetchStatus other id) := by
  refine h.whenOpen (h.status? id) ?_
  unfold SameButReads at h ⊢
  rw [h]

theorem SameButReads.fetchJob (h : SameButReads store other) (id : Int64) :
    SameResult SameButReads (JobStore.fetchJob store id) (JobStore.fetchJob other id) :=
  h.whenOpen (h.job? id) h

end MemoryStore

/-! ## 2. Operations of a coordinator -/

namespace Coordinator

variable {α : Type} {store other : MemoryStore}

structure Outcome.Alike (ours theirs : Outcome MemoryStore α) : Prop where
  result : ours.result = theirs.result
  notices : ours.notices = theirs.notices
  store : SameButReads ours.store theirs.store

theorem alike_ofStore {ours theirs : StoreResult MemoryStore α}
    (h : SameResult SameButReads ours theirs) (notices : α → List Notice) :
    (Outcome.ofStore ours notices).Alike (.ofStore theirs notices) := by
  obtain ⟨result, store⟩ := ours
  obtain ⟨_, other⟩ := theirs
  obtain ⟨rfl, hafter⟩ := h
  cases result <;> exact ⟨rfl, rfl, hafter⟩

theorem alike_whenRunning (c : Coordinator) (h : SameButReads store other)
    {ours theirs : Unit → Outcome MemoryStore α} (hboth : (ours ()).Alike (theirs ())) :
    (c.whenRunning store ours).Alike (c.whenRunning other theirs) := by
  unfold whenRunning
  split
  · exact ⟨rfl, rfl, h⟩
  · exact hboth

theorem submit_alike (c : Coordinator) (h : SameButReads store other) (config : Json) :
    (c.submit store config).Alike (c.submit other config) := by
  refine alike_whenRunning c h ?_
  split
  · exact ⟨rfl, rfl, h⟩
  · exact alike_ofStore (h.insert _) _

end Coordinator

/-! ## 3. Events -/

def Event.isWait : Event → Bool
  | .wait .. | .wake _ | .abandon _ | .drop _ => true
  | _ => false

namespace Desk

variable {α : Type} {desk other : Desk} {event : Event}

/-- Desks that differ at most in their waits and in the reads that their tables have answered. -/
structure Alike (desk other : Desk) : Prop where
  coordinator : desk.coordinator = other.coordinator
  store : SameButReads desk.store other.store

theorem Alike.refl (desk : Desk) : desk.Alike desk := ⟨rfl, .refl _⟩

theorem Alike.symm (h : desk.Alike other) : other.Alike desk :=
  ⟨h.coordinator.symm, h.store.symm⟩

theorem Alike.trans {third : Desk} (h : desk.Alike other) (hnext : other.Alike third) :
    desk.Alike third :=
  ⟨h.coordinator.trans hnext.coordinator, h.store.trans hnext.store⟩

end Desk

structure Step.Alike (step other : Step) : Prop where
  answer : step.answer = other.answer
  notices : step.notices = other.notices
  desk : step.desk.Alike other.desk

namespace Desk

variable {α : Type} {desk other : Desk} {event : Event}

theorem act_alike {store after : MemoryStore} (h : SameButReads store after)
    (action : TableAction) :
    (act store action).1 = (act after action).1 ∧
      SameButReads (act store action).2 (act after action).2 := by
  cases action with
  | insert payload =>
    have hsame := h.insert payload
    exact ⟨congrArg (storeAnswer .id) hsame.result, hsame.related⟩
  | setStatus id status =>
    have hsame := h.setStatus id status
    exact ⟨congrArg (storeAnswer fun _ => .done) hsame.result, hsame.related⟩
  | setStatusIf id expected new =>
    have hsame := h.setStatusIf id expected new
    exact ⟨congrArg (storeAnswer .flag) hsame.result, hsame.related⟩
  | fetchStatus id =>
    have hsame := h.fetchStatus id
    exact ⟨congrArg (storeAnswer .code) hsame.result, hsame.related⟩
  | fetchJob id =>
    have hsame := h.fetchJob id
    exact ⟨congrArg (storeAnswer .job) hsame.result, hsame.related⟩
  | setCode id code => exact ⟨rfl, h.setCode id code⟩
  | delete id => exact ⟨rfl, h.map (·.delete id) fun _ _ => rfl⟩
  | close => exact ⟨rfl, h.map (·.close) fun _ _ => rfl⟩

theorem Alike.settle (h : desk.Alike other) (answer : α → Answer)
    {ours theirs : Outcome MemoryStore α} (hboth : ours.Alike theirs) :
    (desk.settle answer ours).Alike (other.settle answer theirs) := by
  obtain ⟨result, store, notices⟩ := ours
  obtain ⟨_, after, _⟩ := theirs
  obtain ⟨rfl, rfl, hafter⟩ := hboth
  exact ⟨rfl, rfl, h.coordinator, hafter⟩

theorem Alike.apply (h : desk.Alike other) (hevent : event.isWait = false) :
    (desk.apply event).Alike (other.apply event) := by
  have hstore := h.store
  obtain ⟨coordinator, store, waiters⟩ := desk
  obtain ⟨_, after, others⟩ := other
  obtain rfl := h.coordinator
  cases event with
  | table action =>
    obtain ⟨hanswer, hafter⟩ := act_alike hstore action
    exact ⟨hanswer, rfl, rfl, hafter⟩
  | submit config => exact h.settle .id (coordinator.submit_alike hstore config)
  | cancel id =>
    exact h.settle _ (Coordinator.alike_whenRunning coordinator hstore
      (Coordinator.alike_ofStore (hstore.setStatus id .cancelling) _))
  | cancelIfPending id =>
    exact h.settle .flag (Coordinator.alike_whenRunning coordinator hstore
      (Coordinator.alike_ofStore (hstore.setStatusIf id .pending .cancelling) _))
  | status id =>
    exact h.settle .code (Coordinator.alike_whenRunning coordinator hstore
      (Coordinator.alike_ofStore (hstore.fetchStatus id) _))
  | fetch id =>
    exact h.settle .job (Coordinator.alike_whenRunning coordinator hstore
      (Coordinator.alike_ofStore (hstore.fetchJob id) _))
  | shutDown =>
    simp only [Desk.apply, Desk.shutDown]
    split <;> exact ⟨rfl, rfl, rfl, hstore⟩
  | wait | wake | abandon | drop => cases hevent

end Desk

end JobDesk
