import JobDesk.Proofs.Desk.Erasure
import JobDesk.Proofs.Desk.Shutdown
import JobDesk.Proofs.Http.Visits

/-!
# Failures — what fails leaves the jobs as they were

An operation of a coordinator that fails changes no row and hands out no id, and neither does a
request that is not answered with success.  An error of the table is passed on as it is, and a
client is told of it with status 500.
-/

namespace JobDesk

open MemoryStore (SameRows SameButReads)

/-! ## 1. Operations at a desk -/

namespace Turn

variable {turn : Turn} {store : MemoryStore} {error : JobError}

theorem refused_sameRows (h : turn.answer store = .refused error) :
    SameRows store (turn.next store) := by
  obtain ⟨edit, hdoes, hleads⟩ := turn.did store
  -- No edit but the one that keeps the rows goes with a refusal.
  rw [h] at hdoes
  cases hdoes with
  | idle => exact hleads

end Turn

namespace BusyDesk

/-- A call that fails changes no row and hands out no id, wherever in its course it fails. -/
theorem refused_sameRows {busy : BusyDesk} {move : Move} {error : JobError}
    (h : (busy.apply move).step.answer = .refused error) :
    SameRows busy.desk.store (busy.apply move).step.desk.store := by
  have hwhole : ∀ event, (busy.desk.apply event).answer = .refused error →
      SameRows busy.desk.store (busy.desk.apply event).desk.store := fun event hanswer =>
    @Turn.refused_sameRows
      ⟨busy.desk.coordinator, busy.desk.store.isClosed, busy.desk.waiters, event⟩ _ error hanswer
  have hgoes := busy.goes move
  generalize busy.apply move = moved at hgoes h ⊢
  cases hgoes with
  | whole => exact hwhole _ h
  | refused => exact hwhole _ h
  -- Those who have been let in take their turn as if the desk were open.
  | @effect _ errand =>
    have hrows := @Turn.refused_sameRows
      ⟨busy.desk.reopened.coordinator, false, busy.desk.waiters, errand.event⟩ busy.desk.store
      error h
    exact ⟨hrows.rows, hrows.lastId, hrows.now⟩
  | begin => exact (busy.desk.ask_alike _).store.sameRows
  | elapse name => exact (busy.desk.elapse_alike name).store.sameRows
  | answer name => exact (busy.desk.answerRead_alike name).store.sameRows
  | fire name => exact (busy.desk.fire_alike name).store.sameRows
  | look name => exact (busy.desk.look_alike name).store.sameRows
  | early | letIn | nothing | halt | tick => cases h

/-- However a wait ends, none of its steps changes more than the number of reads. -/
theorem wait_sameButReads {move : Move} (h : move.isOfWait = true) (busy : BusyDesk) :
    SameButReads busy.desk.store (busy.apply move).step.desk.store := by
  have hgoes := busy.goes move
  generalize busy.apply move = moved at hgoes ⊢
  cases hgoes with
  | early => exact .refl busy.desk.store
  | whole => exact (Desk.apply_alike_of_isWait h busy.desk).store
  | begin => exact (busy.desk.ask_alike _).store
  | elapse name => exact (busy.desk.elapse_alike name).store
  | answer name => exact (busy.desk.answerRead_alike name).store
  | fire name => exact (busy.desk.fire_alike name).store
  | look name => exact (busy.desk.look_alike name).store
  | letIn | refused | effect | nothing | halt | tick => cases h

end BusyDesk

namespace Http

/-! ## 2. Errors as responses -/

section

variable {σ α : Type} [JobStore σ] {c : Coordinator} {store : σ} {now : String}

def failure (now : String) (error : JobError) : Response := (ApiError.ofJobError error).response now

/-- A service answers each operation that fails with the response to its error. -/
structure TellsOf (c : Coordinator) (store : σ) (now : String) (error : JobError) : Prop where
  submit : ∀ members, (c.submit store (.object members)).result = .error error →
    (Http.submit c store now (.object members)).response = failure now error
  fetch : ∀ id, (c.fetch store id).result = .error error →
    (Http.fetch c store now id).response = failure now error
  status : ∀ id, (c.status store id).result = .error error →
    (Http.status c store now id).response = failure now error
  cancel : ∀ id, (c.cancel store id).result = .error error →
    (Http.cancel c store now id false).response = failure now error
  cancelIfPending : ∀ id, (c.cancelIfPending store id).result = .error error →
    (Http.cancel c store now id true).response = failure now error
  wait : ∀ id, waitResponse now id (.error error) = failure now error

theorem tellsOf (c : Coordinator) (store : σ) (now : String) (error : JobError) :
    TellsOf c store now error where
  submit members h := by
    simp only [Http.submit, h]
    rfl
  fetch id h := by
    simp only [Http.fetch, h]
    rfl
  status id h := by
    simp only [Http.status, h]
    rfl
  cancel id h := by
    simp only [Http.cancel, h]
    rfl
  cancelIfPending id h := by
    simp only [Http.cancel, h]
    rfl
  wait id := rfl

end

/-! ## 3. Requests -/

def Response.isSuccess (response : Response) : Bool :=
  200 ≤ response.status && response.status < 300

variable {c : Coordinator} {store : MemoryStore} {now : String} {error : JobError}

theorem settled_failed {α : Type} {answer : α → Answer}
    {outcome : Coordinator.Outcome MemoryStore α} (event : Event)
    (hsettles : (⟨c, store, []⟩ : Desk).apply event = Desk.settle ⟨c, store, []⟩ answer outcome)
    (h : outcome.result = .error error) : SameRows store outcome.store := by
  have hanswer : ((⟨c, store, []⟩ : Desk).apply event).answer = .refused error := by
    rw [hsettles, Desk.settle, h]
  -- The operation is a turn of its own, by one who has seen the table as it is.
  have hrows := @Turn.refused_sameRows ⟨c, store.isClosed, [], event⟩ store error hanswer
  change SameRows store ((⟨c, store, []⟩ : Desk).apply event).desk.store at hrows
  rwa [hsettles] at hrows

/-- A task that is not answered with success changes no row and hands out no id. -/
theorem perform_failed {task : Task} {handled : Handled MemoryStore}
    (hperform : perform c store now task = .answered handled)
    (hfailed : handled.response.isSuccess = false) : SameRows store handled.store := by
  cases task with
  | health =>
    obtain rfl := Reaction.answered.inj hperform
    exact .refl store
  | submit config =>
    obtain rfl := Reaction.answered.inj hperform
    cases config with
    | object members =>
      cases hresult : (c.submit store (.object members)).result with
      -- What goes well is answered with a status of success.
      | ok id =>
        simp only [submit, hresult] at hfailed
        cases hfailed
      | error error => exact settled_failed (.submit _) rfl hresult
    | null | bool | integer | float | string | array => exact .refl store
  | fetch id =>
    obtain rfl := Reaction.answered.inj hperform
    exact (@Desk.apply_alike_of_isReading (.fetch id) rfl ⟨c, store, []⟩).store.sameRows
  | status id =>
    obtain rfl := Reaction.answered.inj hperform
    exact (@Desk.apply_alike_of_isReading (.status id) rfl ⟨c, store, []⟩).store.sameRows
  | cancel id onlyPending =>
    obtain rfl := Reaction.answered.inj hperform
    cases onlyPending with
    | true =>
      cases hresult : (c.cancelIfPending store id).result with
      | ok changed =>
        simp only [cancel, if_true, hresult] at hfailed
        cases hfailed
      | error error => exact settled_failed (.cancelIfPending id) rfl hresult
    | false =>
      cases hresult : (c.cancel store id).result with
      | ok value =>
        simp only [cancel, Bool.false_eq_true, if_false, hresult] at hfailed
        cases hfailed
      | error error => exact settled_failed (.cancel id) rfl hresult
  | wait id => cases hperform

variable {clock : Clock} {request : Request} {response : Response}

/-- A request that is not answered with success changes no row and hands out no id. -/
theorem begin_failed {name : String}
    (hfailed : ∀ response, (Exchange.begin clock name now request).response = some response →
      response.isSuccess = false) :
    SameRows clock.desk.store (Exchange.begin clock name now request).clock.desk.store := by
  unfold Exchange.begin serve at hfailed ⊢
  cases htask : request.task with
  | error refusal => exact .refl clock.desk.store
  | ok task =>
    simp only [htask] at hfailed ⊢
    cases hperform : perform clock.desk.coordinator clock.desk.store now task with
    | answered handled =>
      simp only [hperform] at hfailed ⊢
      exact perform_failed hperform (hfailed _ rfl)
    -- The beginning of a wait leaves the rows alone, whatever comes of it.
    | waits id =>
      show SameRows _ (clock.apply (.wait name id none)).2.2.desk.store
      rw [clock.apply_desk]
      exact (Desk.apply_alike_of_isWait rfl clock.desk).store.sameRows

/-- A wait leaves the rows alone until it is answered or its caller goes away. -/
theorem advance_sameRows (exchange : Exchange) (span : Span) :
    SameRows exchange.clock.desk.store (exchange.advance span).clock.desk.store := by
  unfold Exchange.advance
  split
  · exact .refl _
  · exact exchange.clock.advance_sameRows span

theorem finish_sameRows (exchange : Exchange) (limit : Span) :
    SameRows exchange.clock.desk.store (exchange.finish limit).clock.desk.store := by
  refine (advance_sameRows exchange limit).trans ?_
  unfold Exchange.finish Exchange.apply
  split
  · exact .refl _
  · show SameRows _ ((exchange.advance limit).clock.apply (.drop exchange.name)).2.2.desk.store
    rw [Clock.apply_desk, Desk.drop_store]
    exact .refl _

/-! ## 4. Failures -/

/-- What fails leaves the jobs as they were, and errors are passed on unchanged. However what
happens at a desk is interleaved, a call that fails changes no row and hands out no id, and the
steps of a wait never do. A running coordinator asks the table once for each operation and gives
its error as it is; a wait reads once at a time and ends with the first read that fails. A client
is told of an error of the table with status 500, and a request that is not answered with success
changes no row and hands out no id, nor does the time until a wait is answered or given up. -/
theorem failures_harmless :
    (∀ (busy : BusyDesk) (move : Move),
      let after := (busy.apply move).step
      (∀ error, after.answer = .refused error → SameRows busy.desk.store after.desk.store) ∧
        (move.isOfWait = true → SameButReads busy.desk.store after.desk.store)) ∧
    (∀ (σ : Type) [JobStore σ] (recorded : Recorded σ) (c : Coordinator),
      (c.isShutDown = false → c.Asks recorded) ∧
      ∀ id error k n, k < n →
        (∀ i < k, Coordinator.goesOn c.settings.waiting
          (Coordinator.storeAnswers id recorded.table i) = true) →
        Coordinator.storeAnswers id recorded.table k = .error error →
        let (state, after, _) := Coordinator.waitFor c.settings.waiting id n
          (Coordinator.beginRead id ⟨false, false, default⟩ none) recorded
        state = .ended (.error (.statusQuery id error)) ∧
          after.calls = recorded.calls ++ List.replicate (k + 1) (.fetchStatus id)) ∧
    (∀ settings id answers signals events later lastSeen error,
      let before := Coordinator.waitRun settings id answers signals events
      let after := Coordinator.waitRun settings id answers signals (events ++ .answered :: later)
      before.state = .reading lastSeen → answers before.answered = .error error →
        after.state = .ended (.error (.statusQuery id error)) ∧ after.deeds = before.deeds) ∧
    (∀ (σ : Type) [JobStore σ] (c : Coordinator) (store : σ) (now : String) (error : JobError),
      TellsOf c store now error) ∧
    (∀ (error : StoreError) (id : Int64) (now : String),
      (JobError.store error).message = error.message ∧
      failure now (.store error) = (ApiError.database error.message).response now ∧
      failure now (.statusQuery id error) =
        (ApiError.database (JobError.statusQuery id error).message).response now ∧
      ∀ text, ((ApiError.database text).response now).status = 500 ∧
        (ApiError.database text).code = "DATABASE_ERROR") ∧
    (∀ clock name now request,
      let exchange := Exchange.begin clock name now request
      (∀ response, exchange.response = some response → response.isSuccess = false) →
        SameRows clock.desk.store exchange.clock.desk.store) ∧
    ∀ (exchange : Exchange) (span : Span),
      SameRows exchange.clock.desk.store (exchange.advance span).clock.desk.store ∧
        SameRows exchange.clock.desk.store (exchange.finish span).clock.desk.store :=
  ⟨fun busy _ => ⟨fun _ => BusyDesk.refused_sameRows,
      fun hmove => BusyDesk.wait_sameButReads hmove busy⟩,
    fun _ _ recorded c => ⟨fun hrunning => Coordinator.asks_of_running hrunning recorded,
      fun _ _ _ _ hn hbefore hfailed =>
        Coordinator.waitFor_failed c.settings.waiting recorded rfl hn hbefore hfailed⟩,
    fun _ _ _ _ _ later _ _ => Coordinator.waitRun_failed later,
    fun _ _ => tellsOf,
    fun _ _ _ => ⟨rfl, rfl, rfl, fun _ => ⟨rfl, rfl⟩⟩,
    fun _ _ _ _ => begin_failed,
    fun exchange span => ⟨advance_sameRows exchange span, finish_sameRows exchange span⟩⟩

/-- A submission to a closed table takes no id. -/
theorem failures_harmless_when_closed :
    let busy : BusyDesk := ⟨{ store := (({} : MemoryStore).append #[7]).close }, []⟩
    let after := (busy.apply (.whole (.submit (.object [])))).step
    after.answer = .refused (.store .poolClosed) ∧ SameRows busy.desk.store after.desk.store := by
  intro busy after
  have hanswer : after.answer = .refused (.store .poolClosed) := by decide +kernel
  exact ⟨hanswer, (failures_harmless.1 busy _).1 _ hanswer⟩

end Http

end JobDesk
