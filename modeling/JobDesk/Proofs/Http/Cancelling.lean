import JobDesk.Proofs.Client.Requests
import JobDesk.Proofs.Coordinator.Calls
import JobDesk.Proofs.Http.Posting

/-!
# Cancelling — what the answer to a cancellation says of the job

A cancellation on condition says that it was requested just if the status of the job was changed.
One without a condition always says so, even of a job that is not there: the store reports nothing
of a row that it does not find, so that the answer is true only if there is one.
-/

namespace JobDesk

open Coordinator (Outcome)

namespace Http

variable {c : Coordinator} {store : MemoryStore} {now : String} {id : Int64}

/-! ## 1. What an answer says -/

/-- What the answer to a cancellation says of the table is true. -/
structure Truthful (id : Int64) (requested : Bool) (before after : MemoryStore) : Prop where
  recorded : requested = true →
    (∃ job, before.job? id = some job) ∧ after.status? id = some Status.cancelling.code
  untouched : requested = false → after = before

theorem status?_eq_some_iff {code : Int16} :
    store.status? id = some code ↔ ∃ job, store.job? id = some job ∧ job.status = code := by
  rw [MemoryStore.status?, Option.map_eq_some_iff]

theorem cancelResponse_injective {requested other : Bool}
    (h : cancelResponse id requested = cancelResponse id other) : requested = other := by
  simp only [cancelResponse, CancelReport.toJson, Response.mk.injEq, Body.json.injEq,
    Json.object.injEq, List.cons.injEq, Prod.mk.injEq, Json.bool.injEq] at h
  simpa using h

/-- A job that is there can be said to be cancelled once its code is written. -/
theorem truthful_setCode_iff :
    Truthful id true store (store.setCode id Status.cancelling.code) ↔
      ∃ job, store.job? id = some job := by
  constructor
  · exact fun h => (h.recorded rfl).1
  · rintro ⟨job, hjob⟩
    refine ⟨fun _ => ⟨⟨job, hjob⟩, ?_⟩, nofun⟩
    rw [MemoryStore.status?_setCode, status?_eq_some_iff.mpr ⟨job, hjob, rfl⟩, Option.map_some,
      if_pos rfl]

theorem truthful_refused : Truthful id false store store := ⟨nofun, fun _ => rfl⟩

/-! ## 2. Accepted cancellations -/

theorem ApiError.status_ne_accepted (error : ApiError) (now : String) :
    (error.response now).status ≠ 202 := by
  cases error <;> simp [ApiError.response, ApiError.status]

theorem respond_accepted {α : Type} {render : α → Response} {result : Except ApiError α}
    (h : (respond now render result).status = 202) : ∃ value, result = .ok value := by
  cases result with
  | ok value => exact ⟨value, rfl⟩
  | error error => exact absurd h (error.status_ne_accepted now)

/-- An operation on the store that succeeds was asked for while the coordinator ran and the table
was open, and has done what it does then. -/
theorem eq_of_result_ok {α : Type} {operation : α × MemoryStore}
    {notices : α → List Coordinator.Notice} {value : α}
    (h : (c.whenRunning store fun _ => .ofStore (store.whenOpen operation) notices).result =
      .ok value) :
    operation.1 = value ∧
      (c.whenRunning store fun _ => .ofStore (store.whenOpen operation) notices).store =
        operation.2 := by
  -- After a shutdown, or on a closed table, the operation does not succeed.
  cases hdown : c.isShutDown with
  | true =>
    rw [Coordinator.whenRunning_of_shutDown hdown] at h
    cases h
  | false =>
    rw [Coordinator.whenRunning_of_running hdown] at h ⊢
    cases hclosed : store.isClosed with
    | true =>
      simp only [MemoryStore.whenOpen, hclosed, if_true, Outcome.ofStore] at h
      cases h
    | false =>
      simp only [MemoryStore.whenOpen, hclosed, Outcome.ofStore] at h ⊢
      exact ⟨Except.ok.inj h, rfl⟩

theorem result_of_toApi {α : Type} {result : Except JobError α} {value : α}
    (h : toApi result = .ok value) : result = .ok value :=
  ok_of_mapError h

/-- A cancellation without a condition that is accepted is answered with yes; the code is written
wherever the job is found. -/
theorem cancel_accepted (h : (cancel c store now id false).response.status = 202) :
    (cancel c store now id false).response = cancelResponse id true ∧
      (cancel c store now id false).store = store.setCode id Status.cancelling.code := by
  obtain ⟨value, hvalue⟩ := respond_accepted h
  have hresult := result_of_toApi hvalue
  refine ⟨?_, (eq_of_result_ok hresult).2⟩
  show respond now (fun _ => cancelResponse id true) (toApi (c.cancel store id).result) = _
  rw [hvalue]
  rfl

/-- A cancellation on condition that is accepted says whether the code was written. -/
theorem cancelIfPending_accepted (h : (cancel c store now id true).response.status = 202) :
    ∃ requested, (cancel c store now id true).response = cancelResponse id requested ∧
      (requested = true → store.status? id = some Status.pending.code ∧
        (cancel c store now id true).store = store.setCode id Status.cancelling.code) ∧
      (requested = false → (cancel c store now id true).store = store) := by
  obtain ⟨requested, hvalue⟩ := respond_accepted h
  obtain ⟨hflag, hstore⟩ := eq_of_result_ok (result_of_toApi hvalue)
  refine ⟨requested, ?_, ?_⟩
  · show respond now (cancelResponse id) (toApi (c.cancelIfPending store id).result) = _
    rw [hvalue]
    rfl
  · change (cancel c store now id true).store = _ at hstore
    rw [hstore]
    -- The flag and the new table are chosen together, by the status that is found.
    by_cases hpending : store.status? id = some Status.pending.code
    · rw [if_pos hpending] at hflag ⊢
      obtain rfl : true = requested := hflag
      exact ⟨fun _ => ⟨hpending, rfl⟩, nofun⟩
    · rw [if_neg hpending] at hflag ⊢
      obtain rfl : false = requested := hflag
      exact ⟨nofun, fun _ => rfl⟩

/-- The answer to an accepted cancellation is true if it was on condition or the job is there, and
only then. -/
theorem truthful_cancel_iff {onlyPending : Bool}
    (h : (cancel c store now id onlyPending).response.status = 202) :
    ∃ requested, (cancel c store now id onlyPending).response = cancelResponse id requested ∧
      (Truthful id requested store (cancel c store now id onlyPending).store ↔
        onlyPending = true ∨ ∃ job, store.job? id = some job) := by
  cases onlyPending with
  | true =>
    -- The store reports whether it wrote the code, and that is the answer.
    obtain ⟨requested, hresponse, hyes, hno⟩ := cancelIfPending_accepted h
    refine ⟨requested, hresponse, iff_of_true ?_ (.inl rfl)⟩
    cases requested with
    | true =>
      obtain ⟨hpending, hstore⟩ := hyes rfl
      obtain ⟨job, hjob, -⟩ := status?_eq_some_iff.mp hpending
      rw [hstore]
      exact truthful_setCode_iff.mpr ⟨job, hjob⟩
    | false =>
      rw [hno rfl]
      exact truthful_refused
  | false =>
    -- The answer is yes whatever the store found.
    obtain ⟨hresponse, hstore⟩ := cancel_accepted h
    refine ⟨true, hresponse, ?_⟩
    rw [hstore, truthful_setCode_iff]
    exact ⟨.inr, fun h => h.resolve_left (by decide)⟩

/-! ## 3. Requests for cancellation -/

variable {clock : Clock} {name : String} {request : Request} {response : Response}

theorem begin_cancel {onlyPending : Bool} (htask : request.task = .ok (.cancel id onlyPending)) :
    let handled := cancel clock.desk.coordinator clock.desk.store now id onlyPending
    (Visit.send name now request).response? clock = some handled.response ∧
      ((Visit.send name now request).next clock).desk.store = handled.store := by
  simp only [Visit.response?, Visit.next, Exchange.begin, serve, htask, perform]
  trivial

/-- Whatever has happened to a service, the answer to a cancellation that it accepts is true of the
table if it was on condition or the job was there, and only then. -/
theorem cancel_answer_true_iff {onlyPending : Bool}
    (htask : request.task = .ok (.cancel id onlyPending))
    (hresponse : (Visit.send name now request).response? clock = some response)
    (haccepted : response.status = 202) :
    ∃ requested, response = cancelResponse id requested ∧
      (Truthful id requested clock.desk.store
          ((Visit.send name now request).next clock).desk.store ↔
        onlyPending = true ∨ ∃ job, clock.desk.store.job? id = some job) := by
  obtain ⟨hanswer, hstore⟩ := @begin_cancel now id clock name request onlyPending htask
  obtain rfl := Option.some.inj (hanswer.symm.trans hresponse)
  rw [hstore]
  exact truthful_cancel_iff haccepted

def cancelJob (id : Int64) : Request := { method := "POST", target := jobPath id "cancel" }

theorem task_cancelJob (id : Int64) : (cancelJob id).task = .ok (.cancel id false) := by
  -- The target has nothing to unescape and no query, so it is routed as it is written.
  have hword : ∀ c ∈ "cancel".toList, IsPlain c ∧ c ≠ '/' := by simp [IsPlain]
  have hplain : ∀ c ∈ (cancelJob id).target.toList, IsPlain c :=
    isPlain_jobPath fun c hc => (hword c hc).1
  have htarget : (cancelJob id).target = jobPath id "cancel" := rfl
  have hslash := htarget ▸ toList_jobPath id "cancel"
  have hrouted : routedPath (cancelJob id).path = jobPath id "cancel" :=
    routedPath_of_plain hslash hplain
  have hquery : (cancelJob id).query = "" := query_of_plain hslash hplain
  have hflag : (cancelJob id).cancelQuery = .ok ⟨false⟩ := by
    rw [Request.cancelQuery, hquery]
    rfl
  unfold Request.task
  rw [hrouted, segments_jobPath fun c hc => (hword c hc).2]
  show (if toString id.toInt = "" then _ else _) = _
  rw [if_neg (Text.toString_ne_empty id.toInt), readId_toString, hflag]
  rfl

/-- Of a job that is not there a cancellation without a condition leaves everything as it is. -/
theorem setCode_of_absent {code : Int16} (h : store.job? id = none) :
    store.setCode id code = store := by
  have hother : ∀ row ∈ store.rows, (row.1 == id) = false := by
    intro row hrow
    have hne := List.lookup_eq_none_iff.mp h row hrow
    rw [bne_iff_ne, Ne, eq_comm] at hne
    exact beq_eq_false_iff_ne.mpr hne
  rw [MemoryStore.setCode, List.map_congr_left (g := fun row => row), List.map_id']
  rintro ⟨key, job⟩ hrow
  simp only [hother (key, job) hrow, Bool.false_eq_true, if_false]

theorem absent_cancel_response (hrunning : clock.desk.coordinator.isShutDown = false)
    (hopen : clock.desk.store.isClosed = false) (habsent : clock.desk.store.job? id = none) :
    (Visit.send name now (cancelJob id)).response? clock = some (cancelResponse id true) ∧
      ((Visit.send name now (cancelJob id)).next clock).desk.store = clock.desk.store := by
  have hcancel : clock.desk.coordinator.cancel clock.desk.store id =
      ⟨.ok (), clock.desk.store, [.cancellationRequested id]⟩ := by
    rw [Coordinator.cancel, Coordinator.whenRunning_of_running hrunning]
    simp only [JobStore.setStatus, MemoryStore.whenOpen, hopen, setCode_of_absent habsent]
    rfl
  obtain ⟨hanswer, hstore⟩ := @begin_cancel now id clock name _ _ (task_cancelJob id)
  rw [hanswer, hstore]
  simp only [cancel, hcancel]
  exact ⟨rfl, rfl⟩

/-- A running job is cancelled: the answer says so, and it is true. -/
theorem running_job_cancelled :
    let clock := run (opening {} ⟨0, 0⟩) [.act (.table (.insert #[])), .act (.table (.setCode 1 1))]
    (Visit.send "cancel" "noon" (cancelJob 1)).response? clock = some (cancelResponse 1 true) ∧
      Truthful 1 true clock.desk.store
        ((Visit.send "cancel" "noon" (cancelJob 1)).next clock).desk.store := by
  intro clock
  have hresponse : (Visit.send "cancel" "noon" (cancelJob 1)).response? clock =
      some (cancelResponse 1 true) :=
    (@begin_cancel "noon" 1 clock "cancel" _ _ (task_cancelJob 1)).1
  obtain ⟨requested, hsame, htrue⟩ := cancel_answer_true_iff (task_cancelJob 1) hresponse rfl
  obtain rfl := cancelResponse_injective hsame
  exact ⟨hresponse, htrue.mpr (.inr ⟨_, rfl⟩)⟩

/-- Nobody has ever posted a job, and the cancellation of one is said to be requested. -/
theorem absent_job_said_cancelled :
    ¬ ∀ (settings : CoordinatorSettings) (moment : Moment) (visits : List Visit)
      (name now : String) (request : Request) (id : Int64) (onlyPending requested : Bool),
      request.task = .ok (.cancel id onlyPending) →
      let clock := run (opening settings moment) visits
      (Visit.send name now request).response? clock = some (cancelResponse id requested) →
      Truthful id requested clock.desk.store
        ((Visit.send name now request).next clock).desk.store := by
  intro h
  -- In a service that nobody has visited there is no job 7.
  have hresponse := (@absent_cancel_response "noon" 7 (opening {} ⟨0, 0⟩) "cancel" rfl rfl rfl).1
  obtain ⟨⟨job, hjob⟩, -⟩ :=
    (h {} ⟨0, 0⟩ [] "cancel" "noon" _ 7 false true (task_cancelJob 7) hresponse).recorded rfl
  cases hjob

end Http

end JobDesk
