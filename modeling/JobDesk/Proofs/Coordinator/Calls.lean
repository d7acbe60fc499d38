import JobDesk.Proofs.Coordinator.WaitRun

/-!
# Calls — what a coordinator asks of a job table

A recorded table answers as the table does that is recorded, and keeps what it is asked.  A running
coordinator asks the table once for each operation, and passes its error on as it is; one that has
been shut down asks nothing.
-/

namespace JobDesk

/-! ## 1. Recorded tables -/

inductive StoreCall where
  | insert (payload : Bytes)
  | setStatus (id : Int64) (status : Status)
  | setStatusIf (id : Int64) (expected new : Status)
  | fetchStatus (id : Int64)
  | fetchJob (id : Int64)
  deriving DecidableEq

structure Recorded (σ : Type) where
  table : σ
  calls : List StoreCall := []

def Recorded.keep {σ α : Type} (recorded : Recorded σ) (call : StoreCall)
    (answer : StoreResult σ α) : StoreResult (Recorded σ) α :=
  (answer.1, ⟨answer.2, recorded.calls ++ [call]⟩)

variable {σ α : Type} [JobStore σ]

instance : JobStore (Recorded σ) where
  insert recorded payload :=
    recorded.keep (.insert payload) (JobStore.insert recorded.table payload)
  setStatus recorded id status :=
    recorded.keep (.setStatus id status) (JobStore.setStatus recorded.table id status)
  setStatusIf recorded id expected new :=
    recorded.keep (.setStatusIf id expected new)
      (JobStore.setStatusIf recorded.table id expected new)
  fetchStatus recorded id :=
    recorded.keep (.fetchStatus id) (JobStore.fetchStatus recorded.table id)
  fetchJob recorded id := recorded.keep (.fetchJob id) (JobStore.fetchJob recorded.table id)

namespace Coordinator

/-! ## 2. A running coordinator -/

omit [JobStore σ] in
/-- An outcome that comes of one call of the table: the answer is given as it is. -/
structure Outcome.AsksOnce (recorded : Recorded σ) (call : StoreCall) (answer : StoreResult σ α)
    (outcome : Outcome (Recorded σ) α) : Prop where
  result : outcome.result = answer.1.mapError .store
  store : outcome.store = ⟨answer.2, recorded.calls ++ [call]⟩

omit [JobStore σ] in
theorem asksOnce_ofStore (recorded : Recorded σ) (call : StoreCall) (answer : StoreResult σ α)
    (notices : α → List Notice) :
    Outcome.AsksOnce recorded call answer (.ofStore (recorded.keep call answer) notices) := by
  obtain ⟨result, store⟩ := answer
  cases result <;> exact ⟨rfl, rfl⟩

omit [JobStore σ] in
theorem whenRunning_of_running {c : Coordinator} (h : c.isShutDown = false) (store : σ)
    (operation : Unit → Outcome σ α) : c.whenRunning store operation = operation () := by
  rw [whenRunning, h]
  rfl

omit [JobStore σ] in
theorem whenRunning_of_shutDown {c : Coordinator} (h : c.isShutDown = true) (store : σ)
    (operation : Unit → Outcome σ α) :
    c.whenRunning store operation = ⟨.error .shutDown, store, []⟩ :=
  if_pos h

/-- What a running coordinator asks for each of its operations. A config that cannot be encoded is
not brought before the table. -/
structure Asks (c : Coordinator) (recorded : Recorded σ) : Prop where
  submit : ∀ config payload, Payload.encode config = .ok payload →
    (c.submit recorded config).AsksOnce recorded (.insert payload)
      (JobStore.insert recorded.table payload)
  unencoded : ∀ config fault, Payload.encode config = .error fault →
    c.submit recorded config = ⟨.error (.encoding fault.message), recorded, []⟩
  cancel : ∀ id, (c.cancel recorded id).AsksOnce recorded (.setStatus id .cancelling)
    (JobStore.setStatus recorded.table id .cancelling)
  cancelIfPending : ∀ id, (c.cancelIfPending recorded id).AsksOnce recorded
    (.setStatusIf id .pending .cancelling)
    (JobStore.setStatusIf recorded.table id .pending .cancelling)
  status : ∀ id, (c.status recorded id).AsksOnce recorded (.fetchStatus id)
    (JobStore.fetchStatus recorded.table id)
  fetch : ∀ id, (c.fetch recorded id).AsksOnce recorded (.fetchJob id)
    (JobStore.fetchJob recorded.table id)

theorem asks_of_running {c : Coordinator} (h : c.isShutDown = false) (recorded : Recorded σ) :
    c.Asks recorded where
  submit config payload hencode := by
    rw [Coordinator.submit, whenRunning_of_running h, hencode]
    exact asksOnce_ofStore recorded _ _ _
  unencoded config fault hencode := by
    rw [Coordinator.submit, whenRunning_of_running h, hencode]
  cancel id := by
    rw [Coordinator.cancel, whenRunning_of_running h]
    exact asksOnce_ofStore recorded _ _ _
  cancelIfPending id := by
    rw [Coordinator.cancelIfPending, whenRunning_of_running h]
    exact asksOnce_ofStore recorded _ _ _
  status id := by
    rw [Coordinator.status, whenRunning_of_running h]
    exact asksOnce_ofStore recorded _ _ _
  fetch id := by
    rw [Coordinator.fetch, whenRunning_of_running h]
    exact asksOnce_ofStore recorded _ _ _

/-! ## 3. A coordinator that has been shut down -/

/-- What a coordinator that asks nothing does with a table: every operation fails, and a wait ends
before its first read. -/
structure Refuses (c : Coordinator) (store : σ) : Prop where
  submit : ∀ config, c.submit store config = ⟨.error .shutDown, store, []⟩
  cancel : ∀ id, c.cancel store id = ⟨.error .shutDown, store, []⟩
  cancelIfPending : ∀ id, c.cancelIfPending store id = ⟨.error .shutDown, store, []⟩
  status : ∀ id, c.status store id = ⟨.error .shutDown, store, []⟩
  fetch : ∀ id, c.fetch store id = ⟨.error .shutDown, store, []⟩
  wait : ∀ id token pick reads,
    waitFor c.settings.waiting id reads (beginRead id ⟨token, c.isShutDown, pick⟩ none) store =
      (.ended (.error (if token then .abandoned id else .shutDown)), store, [])

theorem waitFor_ended (waiting : WaitingSet) (id : Int64) (result : Except JobError Unit)
    (store : σ) (reads : Nat) :
    waitFor waiting id reads (.ended result) store = (.ended result, store, []) := by
  cases reads <;> rfl

theorem refuses_of_shutDown {c : Coordinator} (h : c.isShutDown = true) (store : σ) :
    c.Refuses store where
  submit _ := whenRunning_of_shutDown h store _
  cancel _ := whenRunning_of_shutDown h store _
  cancelIfPending _ := whenRunning_of_shutDown h store _
  status _ := whenRunning_of_shutDown h store _
  fetch _ := whenRunning_of_shutDown h store _
  wait id token pick reads := by
    rw [h, beginRead_of_fired (by simp [Signals.fired]), waitFor_ended]
    rfl

/-! ## 4. Failing reads -/

variable {settings : CoordinatorSettings} {id : Int64} {answers : Nat → StatusAnswer}
variable {signals : Signals} {lastSeen : Option Int16} {error : StoreError}

theorem read_failed (waiting : WaitingSet) (recorded : Recorded σ)
    (h : (JobStore.fetchStatus recorded.table id).1 = .error error) :
    (WaitState.reading lastSeen).read waiting id signals recorded =
      (.ended (.error (.statusQuery id error)),
        ⟨(JobStore.fetchStatus recorded.table id).2, recorded.calls ++ [.fetchStatus id]⟩, []) := by
  have hask : JobStore.fetchStatus recorded id = (.error error,
      ⟨(JobStore.fetchStatus recorded.table id).2, recorded.calls ++ [.fetchStatus id]⟩) := by
    rw [← h]
    rfl
  simp only [WaitState.read, hask]
  rfl

/-- An answer that lets a wait go on sends it to sleep, with one more call made. -/
theorem read_wentOn (waiting : WaitingSet) (recorded : Recorded σ)
    (h : goesOn waiting (JobStore.fetchStatus recorded.table id).1 = true) :
    ∃ code notices, (WaitState.reading lastSeen).read waiting id ⟨false, false, default⟩ recorded =
      (.sleeping code, ⟨(JobStore.fetchStatus recorded.table id).2,
        recorded.calls ++ [.fetchStatus id]⟩, notices) := by
  obtain ⟨code, hsleep⟩ := @takeAnswer_of_goesOn id waiting ⟨false, false, default⟩ lastSeen _ h
  rw [beginSleep_of_quiet rfl] at hsleep
  exact ⟨some code, _, Prod.ext hsleep rfl⟩

/-- A wait whose first reads let it go on and whose next one fails asks for each of them once, and
ends with the error of the last. -/
theorem waitFor_failed (waiting : WaitingSet) (recorded : Recorded σ) {state : WaitState}
    {k n : Nat}
    (hstate : state.onTimer id ⟨false, false, default⟩ = .reading lastSeen) (hn : k < n)
    (hbefore : ∀ i < k, goesOn waiting (storeAnswers id recorded.table i) = true)
    (hfailed : storeAnswers id recorded.table k = .error error) :
    (waitFor waiting id n state recorded).1 = .ended (.error (.statusQuery id error)) ∧
      (waitFor waiting id n state recorded).2.1.calls =
        recorded.calls ++ List.replicate (k + 1) (.fetchStatus id) := by
  induction k generalizing recorded state lastSeen n with
  | zero =>
    obtain ⟨n, rfl⟩ := Nat.exists_eq_succ_of_ne_zero (Nat.ne_zero_of_lt hn)
    have hread :=
      @read_failed σ _ id ⟨false, false, default⟩ lastSeen error waiting recorded hfailed
    simp only [waitFor, hstate, hread]
    exact ⟨trivial, rfl⟩
  | succ k ih =>
    obtain ⟨n, rfl⟩ := Nat.exists_eq_succ_of_ne_zero (Nat.ne_zero_of_lt hn)
    obtain ⟨code, notices, hread⟩ := @read_wentOn σ _ id lastSeen waiting recorded
      (hbefore 0 (Nat.succ_pos k))
    -- The wait sleeps after its first read, and the others are made by the table as it is then.
    obtain ⟨hended, hcalls⟩ := @ih code
      ⟨(JobStore.fetchStatus recorded.table id).2, recorded.calls ++ [.fetchStatus id]⟩
      (.sleeping code) n rfl (Nat.lt_of_succ_lt_succ hn)
      (fun i hi => hbefore (i + 1) (Nat.succ_lt_succ hi)) hfailed
    simp only [waitFor, hstate, hread]
    refine ⟨hended, hcalls.trans ?_⟩
    rw [List.append_assoc]
    rfl

/-- Whatever happens to a wait beside its reads, the first one that fails is its last. -/
theorem waitRun_failed {events : List WaitEvent} (later : List WaitEvent)
    (hreading : (waitRun settings id answers signals events).state = .reading lastSeen)
    (hfailed : answers (waitRun settings id answers signals events).answered = .error error) :
    let before := waitRun settings id answers signals events
    let after := waitRun settings id answers signals (events ++ .answered :: later)
    after.state = .ended (.error (.statusQuery id error)) ∧ after.deeds = before.deeds := by
  intro before after
  have hsplit : after =
      (before.step settings id answers .answered).after settings id answers later :=
    WaitRun.after_append _ _ _
  -- The failing answer ends the wait, and nothing that comes later begins a read.
  obtain ⟨-, -, hend, hdeeds⟩ := WaitRun.step_answered settings id answers hreading
  have hended := hend (by rw [hfailed]; rfl)
  rw [hfailed] at hended
  obtain ⟨hstate, hsame⟩ := @WaitRun.after_ended settings id answers _ _ hended later
  rw [hsplit]
  refine ⟨hstate, hsame.trans ?_⟩
  rw [hdeeds, hended]
  exact List.append_nil _

end Coordinator

end JobDesk
