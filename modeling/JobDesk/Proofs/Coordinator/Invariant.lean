import JobDesk.Http.Service

/-!
# Invariants of job tables — what no operation of a coordinator changes

A coordinator reaches a job table through the operations of job tables only.  What these preserve is
therefore preserved by everything that a coordinator, a wait or a request does.
-/

namespace JobDesk

variable {σ α : Type} [JobStore σ] {P : σ → Prop} {store : σ}

structure JobStore.Invariant (P : σ → Prop) : Prop where
  insert : ∀ store payload, P store → P (JobStore.insert store payload).2
  setStatus : ∀ store id status, P store → P (JobStore.setStatus store id status).2
  setStatusIf : ∀ store id expected new, P store →
    P (JobStore.setStatusIf store id expected new).2
  fetchStatus : ∀ store id, P store → P (JobStore.fetchStatus store id).2
  fetchJob : ∀ store id, P store → P (JobStore.fetchJob store id).2

/-! ## 1. Operations of a coordinator -/

namespace Coordinator

omit [JobStore σ] in
/-- What came of asking a table has the table that the answer came with. -/
theorem store_ofStore (answer : StoreResult σ α) (notices : α → List Notice) :
    (Outcome.ofStore answer notices).store = answer.2 := by
  obtain ⟨result, store⟩ := answer
  cases result <;> rfl

omit [JobStore σ] in
theorem whenRunning_invariant (c : Coordinator) {operation : Unit → Outcome σ α} (hstore : P store)
    (h : P (operation ()).store) : P (c.whenRunning store operation).store := by
  unfold whenRunning
  split
  · exact hstore
  · exact h

theorem submit_invariant (hP : JobStore.Invariant P) (hstore : P store) (c : Coordinator)
    (config : Json) : P (c.submit store config).store := by
  refine whenRunning_invariant c hstore ?_
  split
  · exact hstore
  · rw [store_ofStore]
    exact hP.insert _ _ hstore

theorem cancel_invariant (hP : JobStore.Invariant P) (hstore : P store) (c : Coordinator)
    (id : Int64) : P (c.cancel store id).store := by
  refine whenRunning_invariant c hstore ?_
  rw [store_ofStore]
  exact hP.setStatus _ _ _ hstore

theorem cancelIfPending_invariant (hP : JobStore.Invariant P) (hstore : P store) (c : Coordinator)
    (id : Int64) : P (c.cancelIfPending store id).store := by
  refine whenRunning_invariant c hstore ?_
  rw [store_ofStore]
  exact hP.setStatusIf _ _ _ _ hstore

theorem status_invariant (hP : JobStore.Invariant P) (hstore : P store) (c : Coordinator)
    (id : Int64) : P (c.status store id).store := by
  refine whenRunning_invariant c hstore ?_
  rw [store_ofStore]
  exact hP.fetchStatus _ _ hstore

theorem fetch_invariant (hP : JobStore.Invariant P) (hstore : P store) (c : Coordinator)
    (id : Int64) : P (c.fetch store id).store := by
  refine whenRunning_invariant c hstore ?_
  rw [store_ofStore]
  exact hP.fetchJob _ _ hstore

/-! ## 2. Waits -/

theorem read_invariant (hP : JobStore.Invariant P) (hstore : P store) (waiting : WaitingSet)
    (id : Int64) (signals : Signals) (state : WaitState) :
    P (state.read waiting id signals store).2.1 := by
  unfold WaitState.read
  split
  · exact hP.fetchStatus _ _ hstore
  · exact hstore

theorem waitFor_invariant (hP : JobStore.Invariant P) (hstore : P store) (waiting : WaitingSet)
    (id : Int64) (reads : Nat) (state : WaitState) :
    P (waitFor waiting id reads state store).2.1 := by
  induction reads generalizing state store with
  | zero => exact hstore
  | succ reads ih =>
    unfold waitFor
    have hread := read_invariant hP hstore waiting id ⟨false, false, default⟩
      (state.onTimer id ⟨false, false, default⟩)
    simp only
    split
    · exact ih hread _
    · exact hread

end Coordinator

/-! ## 3. Requests -/

namespace Http

theorem perform_invariant (hP : JobStore.Invariant P) (hstore : P store) (c : Coordinator)
    (now : String) {task : Task} {handled : Handled σ}
    (h : perform c store now task = .answered handled) : P handled.store := by
  cases task with
  | health =>
    obtain rfl := Reaction.answered.inj h
    exact hstore
  | submit config =>
    obtain rfl := Reaction.answered.inj h
    unfold submit
    split
    · exact Coordinator.submit_invariant hP hstore c _
    · exact hstore
  | fetch id =>
    obtain rfl := Reaction.answered.inj h
    exact Coordinator.fetch_invariant hP hstore c id
  | status id =>
    obtain rfl := Reaction.answered.inj h
    exact Coordinator.status_invariant hP hstore c id
  | cancel id onlyPending =>
    obtain rfl := Reaction.answered.inj h
    unfold cancel
    split
    · exact Coordinator.cancelIfPending_invariant hP hstore c id
    · exact Coordinator.cancel_invariant hP hstore c id
  | wait id => cases h

/-- A request that is answered at once preserves what every operation preserves. -/
theorem serve_invariant (hP : JobStore.Invariant P) (hstore : P store) (c : Coordinator)
    (now : String) {request : Request} {handled : Handled σ}
    (h : serve c store now request = .answered handled) : P handled.store := by
  unfold serve at h
  split at h
  · exact perform_invariant hP hstore c now h
  · obtain rfl := Reaction.answered.inj h
    exact hstore

end Http

end JobDesk
