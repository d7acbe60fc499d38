import JobDesk.Desk.Clock
import JobDesk.Proofs.Coordinator.Invariant
import JobDesk.Proofs.Store.Edits

/-!
# Events as edits — what happens at a desk changes its table by one edit

`Event.Makes` says which edits an event can make, and `Desk.apply_edits` that it makes one of them.
Waits and the time that passes leave the rows alone.
-/

namespace JobDesk

open Coordinator (Outcome)
open MemoryStore (Edit SameRows SameButReads)

/-! ## 1. Edits of events -/

inductive Event.Makes : Event → Edit → Prop
  | kept (event : Event) : Makes event .keep
  | inserted (payload : Bytes) : Makes (.table (.insert payload)) (.append payload)
  | submitted {config : Json} {payload : Bytes} (hencode : Payload.encode config = .ok payload) :
      Makes (.submit config) (.append payload)
  | written (id : Int64) (status : Status) :
      Makes (.table (.setStatus id status)) (.setCode id status.code)
  | writtenIf (id : Int64) (expected new : Status) :
      Makes (.table (.setStatusIf id expected new)) (.setCode id new.code)
  | coded (id : Int64) (code : Int16) : Makes (.table (.setCode id code)) (.setCode id code)
  | removed (id : Int64) : Makes (.table (.delete id)) (.delete id)
  | cancelled (id : Int64) : Makes (.cancel id) (.setCode id Status.cancelling.code)
  | cancelledIf (id : Int64) : Makes (.cancelIfPending id) (.setCode id Status.cancelling.code)

def Event.Edits (event : Event) (store after : MemoryStore) : Prop :=
  ∃ edit, event.Makes edit ∧ edit.Leads store after

theorem Event.edits_keep {event : Event} {store after : MemoryStore}
    (h : SameRows store after) : event.Edits store after :=
  ⟨.keep, .kept event, h⟩

theorem Event.edits_of_makes {event : Event} {edit : Edit} (h : event.Makes edit)
    (store : MemoryStore) : event.Edits store (edit.apply store) :=
  ⟨edit, h, .refl _⟩

/-! ## 2. The table -/

variable {α : Type} {store : MemoryStore}

/-- A closed table is left as it is; an open one comes to what the operation makes of it. -/
theorem MemoryStore.whenOpen_spec (store : MemoryStore) (operation : α × MemoryStore) :
    (store.whenOpen operation = (.error .poolClosed, store) ∧ store.isClosed = true) ∨
      (store.whenOpen operation = (.ok operation.1, operation.2) ∧ store.isClosed = false) := by
  unfold MemoryStore.whenOpen
  cases hclosed : store.isClosed
  · exact .inr ⟨rfl, rfl⟩
  · exact .inl ⟨rfl, rfl⟩

theorem Event.edits_whenOpen {event : Event} {operation : α × MemoryStore}
    (h : event.Edits store operation.2) : event.Edits store (store.whenOpen operation).2 := by
  rcases store.whenOpen_spec operation with ⟨heq, -⟩ | ⟨heq, -⟩
  · rw [heq]
    exact Event.edits_keep (.refl store)
  · rw [heq]
    exact h

theorem Desk.act_edits (store : MemoryStore) (action : TableAction) :
    (Event.table action).Edits store (Desk.act store action).2 := by
  cases action with
  | insert payload => exact Event.edits_whenOpen (Event.edits_of_makes (.inserted payload) store)
  | setStatus id status =>
    exact Event.edits_whenOpen (Event.edits_of_makes (.written id status) store)
  | setStatusIf id expected new =>
    -- The code is written only where the row has the expected one.
    refine Event.edits_whenOpen ?_
    split
    · exact Event.edits_of_makes (.writtenIf id expected new) store
    · exact Event.edits_keep (.refl store)
  | fetchStatus id => exact Event.edits_whenOpen (Event.edits_keep ⟨rfl, rfl, rfl⟩)
  | fetchJob id => exact Event.edits_whenOpen (Event.edits_keep (.refl store))
  | setCode id code => exact Event.edits_of_makes (.coded id code) store
  | delete id => exact Event.edits_of_makes (.removed id) store
  | close => exact Event.edits_keep ⟨rfl, rfl, rfl⟩

/-! ## 3. The coordinator -/

theorem Event.edits_whenRunning {event : Event} (c : Coordinator)
    {operation : Unit → Outcome MemoryStore α} (h : event.Edits store (operation ()).store) :
    event.Edits store (c.whenRunning store operation).store := by
  unfold Coordinator.whenRunning
  split
  · exact Event.edits_keep (.refl store)
  · exact h

theorem Coordinator.submit_edits (c : Coordinator) (store : MemoryStore) (config : Json) :
    (Event.submit config).Edits store (c.submit store config).store := by
  refine Event.edits_whenRunning c ?_
  split
  · exact Event.edits_keep (.refl store)
  · rename_i payload hencode
    rw [Coordinator.store_ofStore]
    exact Event.edits_whenOpen (Event.edits_of_makes (.submitted hencode) store)

theorem Coordinator.cancel_edits (c : Coordinator) (store : MemoryStore) (id : Int64) :
    (Event.cancel id).Edits store (c.cancel store id).store := by
  refine Event.edits_whenRunning c ?_
  rw [Coordinator.store_ofStore]
  exact Event.edits_whenOpen (Event.edits_of_makes (.cancelled id) store)

theorem Coordinator.cancelIfPending_edits (c : Coordinator) (store : MemoryStore) (id : Int64) :
    (Event.cancelIfPending id).Edits store (c.cancelIfPending store id).store := by
  refine Event.edits_whenRunning c ?_
  rw [Coordinator.store_ofStore]
  refine Event.edits_whenOpen ?_
  split
  · exact Event.edits_of_makes (.cancelledIf id) store
  · exact Event.edits_keep (.refl store)

theorem Coordinator.status_edits (c : Coordinator) (store : MemoryStore) (id : Int64) :
    (Event.status id).Edits store (c.status store id).store := by
  refine Event.edits_whenRunning c ?_
  rw [Coordinator.store_ofStore]
  exact Event.edits_whenOpen (Event.edits_keep ⟨rfl, rfl, rfl⟩)

theorem Coordinator.fetch_edits (c : Coordinator) (store : MemoryStore) (id : Int64) :
    (Event.fetch id).Edits store (c.fetch store id).store := by
  refine Event.edits_whenRunning c ?_
  rw [Coordinator.store_ofStore]
  exact Event.edits_whenOpen (Event.edits_keep (.refl store))

/-! ## 4. Waits -/

namespace Desk

theorem putBack_store (desk : Desk) (waiter : Waiter) (notices : List Coordinator.Notice) :
    (desk.putBack waiter notices).desk.store = desk.store := by
  unfold putBack
  split <;> rfl

/-- A read that is asked for counts as one more read, and is all that changes. -/
theorem read_sameButReads (desk : Desk) (waiter : Waiter) :
    SameButReads desk.store (desk.read waiter).desk.store := by
  unfold read
  simp only [putBack_store]
  unfold Coordinator.WaitState.read
  split
  · rcases desk.store.whenOpen_spec
      (desk.store.status? waiter.id, { desk.store with statusReads := desk.store.statusReads + 1 })
      with ⟨heq, -⟩ | ⟨heq, -⟩
    · simp only [JobStore.fetchStatus, heq]
      exact .refl desk.store
    · simp only [JobStore.fetchStatus, heq]
      rfl
  · exact .refl desk.store

theorem take?_store {desk rest : Desk} {name : String} {waiter : Waiter}
    (h : desk.take? name = some (waiter, rest)) : rest.store = desk.store := by
  obtain ⟨_, -, hpair⟩ := Option.map_eq_some_iff.mp h
  rw [← (Prod.mk.inj hpair).2]

theorem wake_sameButReads (desk : Desk) (name : String) :
    SameButReads desk.store (desk.apply (.wake name)).desk.store := by
  unfold apply
  simp only
  split
  · rename_i waiter rest htake
    rw [← take?_store htake]
    exact rest.read_sameButReads _
  · exact .refl desk.store

theorem abandon_store (desk : Desk) (name : String) :
    (desk.apply (.abandon name)).desk.store = desk.store := by
  unfold apply
  simp only
  split
  · rename_i waiter rest htake
    rw [putBack_store, take?_store htake]
  · rfl

theorem drop_store (desk : Desk) (name : String) :
    (desk.apply (.drop name)).desk.store = desk.store := by
  unfold apply
  simp only
  split
  · rename_i waiter rest htake
    exact take?_store htake
  · rfl

theorem shutDown_store (desk : Desk) : (desk.apply .shutDown).desk.store = desk.store := by
  simp only [apply, shutDown]
  split <;> rfl

/-! ## 5. Events -/

/-- What happens at a desk changes its table by one of the edits of the event. -/
theorem apply_edits (desk : Desk) (event : Event) :
    event.Edits desk.store (desk.apply event).desk.store := by
  cases event with
  | table action => exact act_edits desk.store action
  | submit config => exact desk.coordinator.submit_edits desk.store config
  | cancel id => exact desk.coordinator.cancel_edits desk.store id
  | cancelIfPending id => exact desk.coordinator.cancelIfPending_edits desk.store id
  | status id => exact desk.coordinator.status_edits desk.store id
  | fetch id => exact desk.coordinator.fetch_edits desk.store id
  | shutDown =>
    rw [shutDown_store]
    exact Event.edits_keep (.refl desk.store)
  | wait => exact Event.edits_keep (desk.read_sameButReads _).sameRows
  | wake name => exact Event.edits_keep (desk.wake_sameButReads name).sameRows
  | abandon name =>
    rw [abandon_store]
    exact Event.edits_keep (.refl desk.store)
  | drop name =>
    rw [drop_store]
    exact Event.edits_keep (.refl desk.store)

end Desk

/-! ## 6. Time -/

namespace Clock

theorem apply_desk (clock : Clock) (event : Event) :
    (clock.apply event).2.2.desk = (clock.desk.apply event).desk := by
  unfold apply reschedule
  cases event <;> rfl

/-- What holds between a desk and itself, and goes on to hold when a wait is woken, holds between a
desk and what it is after some reads. -/
theorem readUntil_related (related : Desk → Desk → Prop) (hrefl : ∀ desk, related desk desk)
    (htrans : ∀ {first second third}, related first second → related second third →
      related first third)
    (hwake : ∀ desk name, related desk (desk.apply (.wake name)).desk) (time : Span) (rounds : Nat)
    (clock : Clock) (report : Report) :
    related clock.desk (readUntil time rounds clock report).2.desk := by
  -- Each round wakes the wait that is due first, unless it is due later than `time`.
  induction rounds generalizing clock report with
  | zero => exact hrefl clock.desk
  | succ rounds ih =>
    unfold readUntil
    split
    · rename_i name due _
      split
      · have hnext : related clock.desk
            (({ clock with now := due } : Clock).apply (.wake name)).2.2.desk := by
          rw [apply_desk]
          exact hwake clock.desk name
        exact htrans hnext (ih _ _)
      · exact hrefl clock.desk
    · exact hrefl clock.desk

theorem advance_sameRows (clock : Clock) (span : Span) :
    SameRows clock.desk.store (clock.advance span).2.desk.store :=
  readUntil_related (fun desk after => SameRows desk.store after.store)
    (fun desk => .refl desk.store) SameRows.trans
    (fun desk name => (desk.wake_sameButReads name).sameRows) _ _ clock {}

end Clock

end JobDesk
