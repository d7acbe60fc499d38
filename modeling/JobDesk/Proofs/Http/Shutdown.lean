import JobDesk.Proofs.Desk.Shutdown
import JobDesk.Proofs.Http.Task
import JobDesk.Proofs.Http.Visits

/-!
# Shutdown of a service — what clients get from then on

The coordinator of a service has been shut down exactly when somebody has done so; the service says
so when it is asked how it is, and answers every request for jobs with status 503.
-/

namespace JobDesk

namespace Clock

theorem advance_coordinator (clock : Clock) (span : Span) :
    (clock.advance span).2.desk.coordinator = clock.desk.coordinator :=
  readUntil_related (fun desk after => after.coordinator = desk.coordinator) (fun _ => rfl)
    (fun hfirst hsecond => hsecond.trans hfirst)
    (fun desk name => @Desk.apply_coordinator (.wake name) (by simp) desk) _ _ clock {}

end Clock

namespace Http

variable {clock : Clock} {name now : String} {request : Request} {task : Task}

/-! ## 1. Runs -/

def Visit.isShutDown : Visit → Bool
  | .act .shutDown => true
  | _ => false

theorem Visit.eq_of_isShutDown {visit : Visit} (h : visit.isShutDown = true) :
    visit = .act .shutDown := by
  unfold Visit.isShutDown at h
  split at h
  · rfl
  · cases h

theorem Request.event?_ne_shutDown (request : Request) (name : String) :
    request.event? name ≠ some .shutDown := by
  unfold Request.event?
  split
  any_goals simp
  split <;> simp

theorem next_isShutDown (clock : Clock) (visit : Visit) :
    (visit.next clock).desk.coordinator.isShutDown =
      (clock.desk.coordinator.isShutDown || visit.isShutDown) := by
  cases visit with
  | send name now request =>
    rw [Visit.next, begin_desk]
    cases hevent : request.event? name with
    | none => exact (Bool.or_false _).symm
    | some event =>
      have hother : event ≠ .shutDown := fun heq =>
        request.event?_ne_shutDown name (heq ▸ hevent)
      simp only [Desk.apply_coordinator hother]
      exact (Bool.or_false _).symm
  | act event =>
    rw [Visit.next, clock.apply_desk]
    cases hvisit : (Visit.act event).isShutDown with
    | true =>
      obtain rfl := Visit.act.inj (Visit.eq_of_isShutDown hvisit)
      rw [Bool.or_true]
      exact Desk.isShutDown_apply_shutDown clock.desk
    | false =>
      have hother : event ≠ .shutDown := fun heq => by
        rw [heq] at hvisit
        cases hvisit
      rw [Desk.apply_coordinator hother, Bool.or_false]
  | pass span =>
    rw [Visit.next, clock.advance_coordinator]
    exact (Bool.or_false _).symm

theorem run_isShutDown (clock : Clock) (visits : List Visit) :
    (run clock visits).desk.coordinator.isShutDown =
      (clock.desk.coordinator.isShutDown || visits.any Visit.isShutDown) := by
  induction visits generalizing clock with
  | nil => exact (Bool.or_false _).symm
  | cons visit rest ih =>
    rw [run, List.foldl_cons, List.any_cons, ← Bool.or_assoc, ← next_isShutDown]
    exact ih (visit.next clock)

/-! ## 2. Requests -/

/-- Whether a task is one for the jobs; a config that is no object is none. -/
def Task.isForJobs : Task → Bool
  | .health => false
  | .submit (.object _) => true
  | .submit _ => false
  | .fetch _ | .status _ | .cancel _ _ | .wait _ => true

theorem begin_health (htask : request.task = .ok .health) (clock : Clock) (name now : String) :
    (Exchange.begin clock name now request).response = some (health clock.desk.coordinator) := by
  simp only [Exchange.begin, serve, htask]
  rfl

theorem health_status (c : Coordinator) : (health c).status = 503 ↔ c.isShutDown = true := by
  unfold health
  cases c.isShutDown <;> simp

/-- A request for jobs finds the service unavailable once its coordinator has been shut down. -/
theorem begin_unavailable (hshut : clock.desk.coordinator.isShutDown = true)
    (htask : request.task = .ok task) (hjobs : task.isForJobs = true) (name now : String) :
    let exchange := Exchange.begin clock name now request
    exchange.response = some (ApiError.unavailable.response now) ∧
      exchange.clock.desk.store = clock.desk.store := by
  have hrefuses := Coordinator.refuses_of_shutDown hshut clock.desk.store
  simp only [Exchange.begin, serve, htask]
  cases task with
  | health => cases hjobs
  | submit config =>
    cases config with
    | object members =>
      simp only [perform, submit, hrefuses.submit]
      exact ⟨rfl, trivial⟩
    | null | bool | integer | float | string | array => cases hjobs
  | fetch id =>
    simp only [perform, fetch, hrefuses.fetch]
    exact ⟨rfl, trivial⟩
  | status id =>
    simp only [perform, status, hrefuses.status]
    exact ⟨rfl, trivial⟩
  | cancel id onlyPending =>
    cases onlyPending with
    | true =>
      simp only [perform, cancel, hrefuses.cancelIfPending, if_true]
      exact ⟨rfl, trivial⟩
    | false =>
      simp only [perform, cancel, hrefuses.cancel, Bool.false_eq_true, if_false]
      exact ⟨rfl, trivial⟩
  | wait id =>
    have hwait : clock.desk.apply (.wait name id none) = clock.desk.turnedAway name id none :=
      (Desk.begin_turnedAway hshut name id none default).2
    simp only [perform, Exchange.follow, Clock.apply, hwait, Desk.turnedAway, Exchange.ending?,
      List.find?_cons, beq_self_eq_true]
    exact ⟨rfl, rfl⟩

/-! ## 3. Shutdown -/

theorem deeds_after_stopped (settings : CoordinatorSettings) (id : Int64)
    (answers : Nat → StatusAnswer) (signals : Coordinator.Signals)
    (events later : List Coordinator.WaitEvent) :
    (Coordinator.waitRun settings id answers signals (events ++ .stopped :: later)).deeds =
      (Coordinator.waitRun settings id answers signals events).deeds := by
  rw [Coordinator.waitRun, Coordinator.WaitRun.after_append]
  exact (Coordinator.WaitRun.heeds_signal rfl later).deeds

/-- Shutdown is final, complete and visible. A coordinator that has been shut down refuses every
operation and every wait before it asks the table anything, and a wait in progress asks for no
further read. However what happens at a desk is interleaved, the coordinator has been shut down from
the first shutdown on, and then this is found; to shut down once more does nothing. A service says
so when it is asked how it is, in these states and in no other, and answers every request for jobs
with status 503, the table being left as it is. -/
theorem shutDown_final (settings : CoordinatorSettings) :
    (∀ c : Coordinator, c.isShutDown = true → ∀ (σ : Type) [JobStore σ] (recorded : Recorded σ),
      c.Refuses recorded) ∧
    (∀ id answers signals events later,
      (Coordinator.waitRun settings id answers signals (events ++ .stopped :: later)).deeds =
        (Coordinator.waitRun settings id answers signals events).deeds) ∧
    (∀ store waiters moves,
      let busy := (⟨⟨{ settings := settings }, store, waiters⟩, []⟩ : BusyDesk).after moves
      (busy.desk.coordinator.isShutDown = true ↔ ∃ move ∈ moves, move.isShutDown = true) ∧
        ((∃ move ∈ moves, move.isShutDown = true) → busy.IsShut)) ∧
    ∀ store waiters time due visits,
      let clock := run ⟨⟨{ settings := settings }, store, waiters⟩, time, due⟩ visits
      ∀ name now request,
        let exchange := Exchange.begin clock name now request
        (request.task = .ok .health → ∃ response, exchange.response = some response ∧
          (response.status = 503 ↔ .act .shutDown ∈ visits)) ∧
        (.act .shutDown ∈ visits → ∀ task, request.task = .ok task → task.isForJobs = true →
          exchange.response = some (ApiError.unavailable.response now) ∧
            (ApiError.unavailable.response now).status = 503 ∧
            ApiError.unavailable.code = "SERVICE_UNAVAILABLE" ∧
            exchange.clock.desk.store = clock.desk.store) := by
  refine ⟨fun c hshut σ _ recorded => Coordinator.refuses_of_shutDown hshut recorded,
    deeds_after_stopped settings, BusyDesk.isShut_after settings,
    fun store waiters time due visits => ?_⟩
  intro clock name now request exchange
  -- The flag of the coordinator says whether somebody has shut it down, since no request does.
  have hvisits : clock.desk.coordinator.isShutDown = true ↔ .act .shutDown ∈ visits := by
    rw [run_isShutDown, Bool.false_or, List.any_eq_true]
    constructor
    · rintro ⟨visit, hmem, hvisit⟩
      rwa [Visit.eq_of_isShutDown hvisit] at hmem
    · exact fun hmem => ⟨_, hmem, rfl⟩
  refine ⟨fun htask => ⟨_, begin_health htask clock name now, ?_⟩,
    fun hmem task htask hjobs => ?_⟩
  · rw [health_status, hvisits]
  · obtain ⟨hresponse, hstore⟩ := begin_unavailable (hvisits.mpr hmem) htask hjobs name now
    exact ⟨hresponse, rfl, rfl, hstore⟩

def onlyKey? : Json → Option String
  | .object [(key, _)] => some key
  | _ => none

/-- A config with a zero in its key is not looked at any more. -/
theorem shutDown_final_of_zero_key :
    let text := "\x7b\"a\\u0000\":1\x7d"
    (Json.read? text).bind onlyKey? = some "a\x00" ∧
      (Exchange.begin (run {} [.act .shutDown]) "post" "noon" (postJob text)).response =
        some (ApiError.unavailable.response "noon") := by
  intro text
  have hkey : (Json.read? text).bind onlyKey? = some "a\x00" := by decide +kernel
  obtain ⟨config, hread, honly⟩ := Option.bind_eq_some_iff.mp hkey
  have hjobs : (Task.submit config).isForJobs = true := by
    unfold onlyKey? at honly
    split at honly
    · rfl
    · cases honly
  have hservice := (shutDown_final {}).2.2.2 {} [] ⟨0⟩ [] [.act .shutDown] "post" "noon"
    (postJob text)
  exact ⟨hkey, (hservice.2 (List.mem_singleton_self _) _
    (task_postJob (by decide) hread) hjobs).1⟩

end Http

end JobDesk
