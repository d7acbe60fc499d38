import JobDesk.Proofs.Client.Requests
import JobDesk.Proofs.Desk.Waits
import JobDesk.Proofs.Http.Posting
import JobDesk.Proofs.Http.Shutdown

/-!
# Reading — three ways to ask how a job stands

A job can be asked for as a whole, for its status, or for its end.  Rows that requests have put into
the table can all be read, so that the first two answers are alike; and the next read of a wait ends
it, or lets it go on, by the code that the other two show.
-/

namespace JobDesk

open Coordinator (decided goesOn)
open MemoryStore (Edit SameRows)

/-! ## 1. Tables that can be read -/

def MemoryStore.Legible (store : MemoryStore) : Prop :=
  ∀ id job, store.job? id = some job → ∃ config, Payload.decode job.payload = .ok config

theorem MemoryStore.Legible.leads {store after : MemoryStore} {edit : Edit} (h : store.Legible)
    (hnew : ∀ payload, edit = .append payload → ∃ config, Payload.decode payload = .ok config)
    (hleads : edit.Leads store after) : after.Legible := by
  intro id job hjob
  rw [SameRows.job? hleads] at hjob
  cases edit with
  | keep => exact h id job hjob
  | append payload =>
    rw [Edit.apply, job?_append, Option.or_eq_some_iff] at hjob
    rcases hjob with hold | ⟨-, hadded⟩
    · exact h id job hold
    · split at hadded
      · obtain rfl := Option.some.inj hadded
        exact hnew payload rfl
      · cases hadded
  | setCode key code =>
    rw [Edit.apply, job?_setCode] at hjob
    obtain ⟨old, hold, rfl⟩ := Option.map_eq_some_iff.mp hjob
    obtain ⟨config, hconfig⟩ := h id old hold
    refine ⟨config, ?_⟩
    split <;> exact hconfig
  | delete key =>
    rw [Edit.apply, job?_delete] at hjob
    split at hjob
    · cases hjob
    · exact h id job hjob

namespace Http

variable {clock : Clock} {visit : Visit} {visits : List Visit} {id : Int64} {name now : String}
  {request : Request}

/-- Whether a visit puts a row into the table that no request asks for. -/
def Visit.isRowByHand : Visit → Bool
  | .act (.submit _) => true
  | .act (.table (.insert _)) => true
  | _ => false

theorem next_legible (h : clock.desk.store.Legible) (hvisit : visit.isRowByHand = false) :
    (visit.next clock).desk.store.Legible := by
  obtain ⟨edit, hmakes, hleads⟩ := visit.next_edits clock
  refine h.leads (fun payload heq => ?_) hleads
  subst heq
  rcases hmakes with hkeep | ⟨event, hevent, hmakes⟩
  · cases hkeep
  cases hmakes with
  | inserted =>
    cases visit with
    | send name now request => exact absurd hevent (request.event?_ne_table name _)
    | act event =>
      obtain rfl := Option.some.inj hevent
      cases hvisit
    | pass span => cases hevent
  | submitted hencode =>
    cases visit with
    | send name now request =>
      -- What a body can hold is light, so its payload is short enough to be read.
      obtain ⟨hordered, hweight⟩ :=
        Request.json_spec (Request.json_of_task (Request.task_of_event? hevent))
      exact ⟨_, Payload.decode_of_weight_le hordered hencode (Nat.le_trans hweight (by decide))⟩
    | act event =>
      obtain rfl := Option.some.inj hevent
      cases hvisit
    | pass span => cases hevent

theorem run_legible (h : clock.desk.store.Legible)
    (hvisits : ∀ visit ∈ visits, visit.isRowByHand = false) :
    (run clock visits).desk.store.Legible := by
  induction visits generalizing clock with
  | nil => exact h
  | cons visit rest ih =>
    exact ih (next_legible h (hvisits visit List.mem_cons_self)) fun later hlater =>
      hvisits later (List.mem_cons_of_mem visit hlater)

theorem apply_settings (desk : Desk) (event : Event) :
    (desk.apply event).desk.coordinator.settings = desk.coordinator.settings := by
  by_cases hshutDown : event = .shutDown
  · subst hshutDown
    simp only [Desk.apply, Desk.shutDown, Coordinator.shutDown]
    split <;> rfl
  · rw [Desk.apply_coordinator hshutDown]

theorem run_settings (clock : Clock) (visits : List Visit) :
    (run clock visits).desk.coordinator.settings = clock.desk.coordinator.settings := by
  induction visits generalizing clock with
  | nil => rfl
  | cons visit rest ih =>
    refine (ih (visit.next clock)).trans ?_
    cases visit with
    | send name now request =>
      rw [Visit.next, begin_desk]
      split
      · exact apply_settings clock.desk _
      · rfl
    | act event =>
      rw [Visit.next, clock.apply_desk]
      exact apply_settings clock.desk event
    | pass span => rw [Visit.next, clock.advance_coordinator]

/-! ## 2. What responses say -/

def Response.at? (response : Response) (names : List String) : Option Json :=
  match response.body with
  | .json value => names.foldlM (fun value name => value.field? name) value
  | _ => none

/-- A response shows a status code and the name for it. -/
structure Response.Shows (response : Response) (code : Int16) : Prop where
  status : response.status = 200
  label : response.at? ["status"] = some (.string (Status.label code))
  code : response.at? ["code"] = some (.ofInt16 code)

/-- A response reports a status code that no wait is meant to end with. -/
structure Response.ReportsUnexpected (response : Response) (code : Int16) : Prop where
  status : response.status = 500
  word : response.at? ["error", "code"] = some (.string "UNEXPECTED_JOB_STATUS")
  code : response.at? ["error", "status_code"] = some (.ofInt16 code)

theorem ofInt16_injective {code other : Int16} (h : Json.ofInt16 code = .ofInt16 other) :
    code = other := by
  simp only [Json.ofInt16, Json.integer.injEq, Subtype.mk.injEq] at h
  exact Int16.toInt_inj.mp h

theorem Response.Shows.eq {response : Response} {code other : Int16} (h : response.Shows code)
    (hother : response.Shows other) : code = other :=
  ofInt16_injective (Option.some.inj (h.code.symm.trans hother.code))

theorem shows_status (id : Int64) (code : Int16) :
    (⟨200, .json (StatusReport.ofCode id code).toJson⟩ : Response).Shows code :=
  ⟨rfl, rfl, rfl⟩

theorem shows_report (id : Int64) (code : Int16) (config : Json) (created : Moment) :
    (⟨200, .json (JobReport.mk id (Status.label code) code config created).toJson⟩ :
      Response).Shows code :=
  ⟨rfl, rfl, rfl⟩

theorem reportsUnexpected_response (id : Int64) (code : Int16) (now : String) :
    ((ApiError.unexpectedStatus id code).response now).ReportsUnexpected code :=
  ⟨rfl, rfl, rfl⟩

/-! ## 3. Requests for jobs and their statuses -/

theorem response_fetch_absent (habsent : clock.desk.store.job? id = none)
    (hrunning : clock.desk.coordinator.isShutDown = false)
    (hopen : clock.desk.store.isClosed = false) (htask : request.task = .ok (.fetch id))
    (name now : String) :
    (Visit.send name now request).response? clock = some ((ApiError.notFound id).response now) := by
  have hfetch : clock.desk.coordinator.fetch clock.desk.store id =
      ⟨.ok none, clock.desk.store, []⟩ := by
    simp only [Coordinator.fetch, Coordinator.whenRunning, hrunning, JobStore.fetchJob,
      MemoryStore.whenOpen, hopen, habsent]
    rfl
  simp only [Visit.response?, Exchange.begin, serve, htask, perform, fetch, hfetch]
  rfl

theorem response_status (hrunning : clock.desk.coordinator.isShutDown = false)
    (hopen : clock.desk.store.isClosed = false) (htask : request.task = .ok (.status id))
    (name now : String) :
    (Visit.send name now request).response? clock = some
      (match clock.desk.store.status? id with
      | some code => ⟨200, .json (StatusReport.ofCode id code).toJson⟩
      | none => (ApiError.notFound id).response now) := by
  have hstatus : clock.desk.coordinator.status clock.desk.store id =
      ⟨.ok (clock.desk.store.status? id),
        { clock.desk.store with statusReads := clock.desk.store.statusReads + 1 }, []⟩ := by
    simp only [Coordinator.status, Coordinator.whenRunning, hrunning, JobStore.fetchStatus,
      MemoryStore.whenOpen, hopen]
    rfl
  simp only [Visit.response?, Exchange.begin, serve, htask, perform, status, hstatus]
  cases clock.desk.store.status? id <;> rfl

/-- Who asks for a job and who asks for its status are told the same code, or both that there is no
such job. -/
theorem readers_told (hlegible : clock.desk.store.Legible)
    (hrunning : clock.desk.coordinator.isShutDown = false)
    (hopen : clock.desk.store.isClosed = false) {ask tell : Request}
    (hask : ask.task = .ok (.fetch id)) (htell : tell.task = .ok (.status id))
    (name now name' now' : String) :
    ∃ fetched told, (Visit.send name now ask).response? clock = some fetched ∧
      (Visit.send name' now' tell).response? clock = some told ∧
      ((clock.desk.store.status? id = none ∧ fetched.status = 404 ∧ told.status = 404) ∨
        ∃ code, clock.desk.store.status? id = some code ∧ fetched.Shows code ∧
          told.Shows code) := by
  have htold := response_status hrunning hopen htell name' now'
  cases hjob : clock.desk.store.job? id with
  | none =>
    have hstatus : clock.desk.store.status? id = none := by
      rw [MemoryStore.status?, hjob, Option.map_none]
    rw [hstatus] at htold
    exact ⟨_, _, response_fetch_absent hjob hrunning hopen hask name now, htold,
      .inl ⟨hstatus, rfl, rfl⟩⟩
  | some job =>
    have hstatus : clock.desk.store.status? id = some job.status := by
      rw [MemoryStore.status?, hjob, Option.map_some]
    obtain ⟨config, hconfig⟩ := hlegible id job hjob
    have hreport : job.report =
        .ok ⟨job.id, Status.label job.status, job.status, config, job.created⟩ := by
      simp only [Job.report, hconfig]
    rw [hstatus] at htold
    exact ⟨_, _, response_fetch hjob hreport hrunning hopen hask name now, htold,
      .inr ⟨job.status, hstatus, shows_report _ _ _ _, shows_status id job.status⟩⟩

/-! ## 4. Reads of waits -/

/-- A wait that a request has asked for goes on, asleep until its next read. -/
structure Exchange.Sleeps (exchange : Exchange) (id : Int64) : Prop where
  unanswered : exchange.response = none
  asleep : ∃ lastSeen, exchange.clock.desk.named exchange.name =
    [⟨exchange.name, id, false, false, default, .sleeping lastSeen⟩]

/-- A wait that a request has asked for has just read a code, or that there is no job. -/
structure Exchange.HasRead (exchange : Exchange) (waiting : WaitingSet) (id : Int64)
    (code? : Option Int16) : Prop where
  sleeps : goesOn waiting (.ok code?) = true → exchange.Sleeps id
  answered : goesOn waiting (.ok code?) = false →
    exchange.response = some (waitResponse exchange.sentAt id (decided id (.ok code?)))

/-- What a read of a wait does to the desk is what it does to the request. -/
theorem hasRead_follow {exchange : Exchange} {desk : Desk} {lastSeen : Option Int16}
    {report : Clock.Report} (hunanswered : exchange.response = none)
    (hnone : desk.named exchange.name = []) (hrunning : desk.coordinator.isShutDown = false)
    (hopen : desk.store.isClosed = false)
    (hended : report.ended =
      (desk.read ⟨exchange.name, id, false, false, default, .reading lastSeen⟩).ended)
    (hdesk : clock.desk =
      (desk.read ⟨exchange.name, id, false, false, default, .reading lastSeen⟩).desk) :
    (exchange.follow report clock).HasRead desk.coordinator.settings.waiting id
      (desk.store.status? id) := by
  obtain ⟨store, notices, hread⟩ :=
    Desk.read_eq desk ⟨exchange.name, id, false, false, default, .reading lastSeen⟩
  have hanswer : (JobStore.fetchStatus desk.store id).1 =
      (.ok (desk.store.status? id) : StatusAnswer) := by
    simp only [JobStore.fetchStatus, MemoryStore.whenOpen, hopen]
    rfl
  -- Neither signal has fired, so that the answer alone decides.
  have hstate : (Coordinator.WaitState.read desk.coordinator.settings.waiting id
      (desk.signals ⟨exchange.name, id, false, false, default, .reading lastSeen⟩) desk.store
      (.reading lastSeen)).1 =
      (Coordinator.takeAnswer desk.coordinator.settings.waiting id ⟨false, false, default⟩ lastSeen
        (.ok (desk.store.status? id))).1 := by
    rw [Desk.signals, hrunning, ← hanswer]
    rfl
  rw [hstate] at hread
  rw [hread] at hended hdesk
  constructor
  · intro hgoes
    obtain ⟨code, hsleeps⟩ :=
      @Coordinator.takeAnswer_of_goesOn id _ ⟨false, false, default⟩ lastSeen _ hgoes
    rw [Coordinator.beginSleep_of_quiet rfl] at hsleeps
    rw [hsleeps] at hended hdesk
    refine ⟨?_, some code, ?_⟩
    · simp only [Exchange.follow, hunanswered, hended, Option.none_or]
      rfl
    · simp only [Exchange.follow, hdesk]
      show (desk.waiters ++ [_]).filter _ = _
      rw [List.filter_append, show desk.waiters.filter _ = [] from hnone]
      simp
  · intro hgoes
    have hends :=
      @Coordinator.takeAnswer_of_not_goesOn id _ ⟨false, false, default⟩ lastSeen _ hgoes
    rw [hends] at hended
    simp only [Exchange.follow, hunanswered, hended, Option.none_or]
    simp [Desk.putBack, Exchange.ending?]

theorem begin_wait (htask : request.task = .ok (.wait id)) :
    Exchange.begin clock name now request =
      ({ name := name, sentAt := now, clock := clock } : Exchange).follow
        (clock.apply (.wait name id none)).2.1 (clock.apply (.wait name id none)).2.2 := by
  simp only [Exchange.begin, serve, htask, perform]

theorem apply_wait {desk : Desk} (hrunning : desk.coordinator.isShutDown = false) :
    desk.apply (.wait name id none) =
      desk.read ⟨name, id, false, false, default, .reading none⟩ := by
  simp only [Desk.apply, hrunning]
  rfl

theorem begin_hasRead (hrunning : clock.desk.coordinator.isShutDown = false)
    (hopen : clock.desk.store.isClosed = false) (htask : request.task = .ok (.wait id))
    (hfree : clock.desk.named name = []) :
    (Exchange.begin clock name now request).HasRead clock.desk.coordinator.settings.waiting id
      (clock.desk.store.status? id) := by
  have hwait := @apply_wait id name clock.desk hrunning
  rw [begin_wait htask]
  exact hasRead_follow rfl hfree hrunning hopen (congrArg Step.ended hwait)
    ((clock.apply_desk _).trans (congrArg Step.desk hwait))

theorem wake_hasRead {exchange : Exchange} (h : exchange.Sleeps id)
    (hrunning : exchange.clock.desk.coordinator.isShutDown = false)
    (hopen : exchange.clock.desk.store.isClosed = false) :
    (exchange.apply (.wake exchange.name)).HasRead
      exchange.clock.desk.coordinator.settings.waiting id
      (exchange.clock.desk.store.status? id) := by
  obtain ⟨hunanswered, lastSeen, hnamed⟩ := h
  have hwake : exchange.clock.desk.apply (.wake exchange.name) =
      (exchange.clock.desk.without exchange.name).read
        ⟨exchange.name, id, false, false, default, .reading lastSeen⟩ := by
    rw [Desk.apply_wake (by rw [hnamed]; rfl), Desk.signals, hrunning]
    rfl
  have happly : exchange.apply (.wake exchange.name) = exchange.follow
      (exchange.clock.apply (.wake exchange.name)).2.1
      (exchange.clock.apply (.wake exchange.name)).2.2 := by
    simp only [Exchange.apply, hunanswered]
    rfl
  rw [happly]
  -- The desk at which it reads is the one that it has been taken away from.
  let desk := exchange.clock.desk.without exchange.name
  show Exchange.HasRead _ desk.coordinator.settings.waiting id (desk.store.status? id)
  exact hasRead_follow hunanswered (Desk.named_without_self _ _) hrunning hopen
    (congrArg Step.ended hwake) ((exchange.clock.apply_desk _).trans (congrArg Step.desk hwake))

/-! ## 5. Waits in progress -/

/-- A wait under a name sleeps at a desk with a running coordinator, or has been reported. -/
def Stands (name : String) (id : Int64) (ended : List EndedWait) (desk : Desk) : Prop :=
  reportsOn name ended ≠ [] ∨
    (∃ lastSeen, desk.named name = [⟨name, id, false, false, default, .sleeping lastSeen⟩]) ∧
      desk.coordinator.isShutDown = false

theorem Stands.append {ended more : List EndedWait} {desk : Desk}
    (h : Stands name id more desk) : Stands name id (ended ++ more) desk := by
  rcases h with hreported | hsleeps
  · refine .inl fun hnone => hreported ?_
    rw [reportsOn, List.filter_append, List.append_eq_nil_iff] at hnone
    exact hnone.2
  · exact .inr hsleeps

theorem stands_of_mirrors {desk : Desk} {settings : CoordinatorSettings} {run : Coordinator.WaitRun}
    {ended : List EndedWait} (h : Desk.Mirrors desk settings name id false default run)
    (hreports : reportsOn name ended = reportOf name id run.state) : Stands name id ended desk := by
  cases h with
  | asleep lastSeen hasleep => exact .inr ⟨⟨lastSeen, hasleep.named⟩, hasleep.isRunning⟩
  | gone result hnone hended =>
    rw [hended] at hreports
    exact .inl (hreports ▸ List.cons_ne_nil _ _)

/-- A wait that sleeps goes on to sleep or is reported, whatever happens to others. -/
theorem stands_apply {desk : Desk} {lastSeen : Option Int16} {event : Event}
    (hnamed : desk.named name = [⟨name, id, false, false, default, .sleeping lastSeen⟩])
    (hrunning : desk.coordinator.isShutDown = false) (hspares : event.Spares name) :
    Stands name id (desk.apply event).ended (desk.apply event).desk := by
  -- Its run is one that is asleep, and whose reads are answered by the table of the desk.
  let start := Coordinator.WaitRun.start desk.coordinator.settings id ⟨false, false, default⟩
  have hasleep : Desk.Asleep desk desk.coordinator.settings name id false default
      { start with state := .sleeping lastSeen } lastSeen := ⟨hnamed, rfl, rfl, hrunning, rfl⟩
  obtain ⟨hmirrors, hreports, -⟩ := @Desk.Asleep.apply desk name desk.coordinator.settings id
    (fun _ => (JobStore.fetchStatus desk.store id).1) false default _ lastSeen event hasleep hspares
    fun _ => rfl
  exact stands_of_mirrors hmirrors hreports

theorem stands_clock {lastSeen : Option Int16} {event : Event}
    (hnamed : clock.desk.named name = [⟨name, id, false, false, default, .sleeping lastSeen⟩])
    (hrunning : clock.desk.coordinator.isShutDown = false) (hspares : event.Spares name) :
    Stands name id (clock.apply event).2.1.ended (clock.apply event).2.2.desk := by
  rw [Clock.apply_desk]
  exact stands_apply hnamed hrunning hspares

theorem stands_readUntil {time : Span} {report : Clock.Report} (rounds : Nat)
    (h : Stands name id report.ended clock.desk) :
    Stands name id (Clock.readUntil time rounds clock report).1.ended
      (Clock.readUntil time rounds clock report).2.desk := by
  induction rounds generalizing clock report with
  | zero => exact h
  | succ rounds ih =>
    unfold Clock.readUntil
    split
    · rename_i other due _
      split
      · let woken := ({ clock with now := due } : Clock).apply (.wake other)
        have hwoken : Stands name id (report.append woken.2.1).ended woken.2.2.desk := by
          rcases h with hreported | ⟨⟨lastSeen, hnamed⟩, hrunning⟩
          · refine .inl fun hnone => hreported ?_
            rw [Clock.Report.append, reportsOn, List.filter_append,
              List.append_eq_nil_iff] at hnone
            exact hnone.1
          · have hspares : (Event.wake other).Spares name := trivial
            exact (stands_clock hnamed hrunning hspares).append
        exact ih hwoken
      · exact h
    · exact h

/-- A request for a wait has been answered, or its wait sleeps and its coordinator runs. -/
def Exchange.Goes (exchange : Exchange) (id : Int64) : Prop :=
  exchange.response.isSome = true ∨
    exchange.Sleeps id ∧ exchange.clock.desk.coordinator.isShutDown = false

theorem goes_follow {exchange : Exchange} {report : Clock.Report}
    (hunanswered : exchange.response = none)
    (h : Stands exchange.name id report.ended clock.desk) :
    (exchange.follow report clock).Goes id := by
  have hresponse : (exchange.follow report clock).response =
      Exchange.ending? exchange.name exchange.sentAt report.ended := by
    rw [Exchange.follow, hunanswered, Option.none_or]
  rw [Exchange.ending?, ← List.head?_filter] at hresponse
  rcases h with hreported | ⟨hasleep, hrunning⟩
  · obtain ⟨wait, rest, heq⟩ := List.exists_cons_of_ne_nil hreported
    rw [reportsOn] at heq
    rw [heq] at hresponse
    exact .inl (by rw [hresponse]; rfl)
  · cases hanswer : (exchange.follow report clock).response with
    | some answer => exact .inl (by rw [hanswer]; rfl)
    | none => exact .inr ⟨⟨hanswer, hasleep⟩, hrunning⟩

theorem Exchange.Goes.advance {exchange : Exchange} (h : exchange.Goes id) (span : Span) :
    (exchange.advance span).Goes id := by
  unfold Exchange.advance
  split
  · exact h
  · rename_i hunanswered
    obtain ⟨⟨hnone, hasleep⟩, hrunning⟩ := h.resolve_left hunanswered
    exact goes_follow hnone (stands_readUntil _ (.inr ⟨hasleep, hrunning⟩))

theorem Exchange.Goes.apply {exchange : Exchange} {event : Event} (h : exchange.Goes id)
    (hspares : event.Spares exchange.name) : (exchange.apply event).Goes id := by
  unfold Exchange.apply
  split
  · exact h
  · rename_i hunanswered
    obtain ⟨⟨hnone, lastSeen, hnamed⟩, hrunning⟩ := h.resolve_left hunanswered
    exact goes_follow hnone (stands_clock hnamed hrunning hspares)

theorem name_advance (exchange : Exchange) (span : Span) :
    (exchange.advance span).name = exchange.name := by
  unfold Exchange.advance
  split <;> rfl

theorem name_apply (exchange : Exchange) (event : Event) :
    (exchange.apply event).name = exchange.name := by
  unfold Exchange.apply
  split <;> rfl

theorem Exchange.Goes.during {exchange : Exchange} (h : exchange.Goes id)
    {events : List (Span × Event)} (hspares : ∀ event ∈ events, event.2.Spares exchange.name) :
    (exchange.during events).Goes id := by
  induction events generalizing exchange with
  | nil => exact h
  | cons event rest ih =>
    have hname : ((exchange.advance event.1).apply event.2).name = exchange.name := by
      rw [name_apply, name_advance]
    refine ih ((h.advance event.1).apply ?_) fun later hlater => ?_
    · rw [name_advance]
      exact hspares event List.mem_cons_self
    · rw [hname]
      exact hspares later (List.mem_cons_of_mem event hlater)

theorem begin_goes (hrunning : clock.desk.coordinator.isShutDown = false)
    (htask : request.task = .ok (.wait id)) (hfree : clock.desk.named name = []) :
    (Exchange.begin clock name now request).Goes id := by
  have hread := @Coordinator.beginRead_of_quiet id ⟨false, false, default⟩ none rfl
  obtain ⟨hmirrors, hreports, -⟩ := @Desk.read_answered clock.desk name
    clock.desk.coordinator.settings id (fun _ => (JobStore.fetchStatus clock.desk.store id).1) false
    default (Coordinator.WaitRun.start clock.desk.coordinator.settings id ⟨false, false, default⟩)
    none hfree hrunning rfl hread rfl rfl
  rw [← apply_wait hrunning] at hmirrors hreports
  rw [begin_wait htask]
  refine goes_follow rfl ?_
  rw [Clock.apply_desk]
  exact stands_of_mirrors hmirrors hreports

/-- A request for a wait of a running coordinator has been answered, or its wait sleeps, however
much time passes and whatever happens to others. -/
theorem begin_during_goes (hrunning : clock.desk.coordinator.isShutDown = false)
    (htask : request.task = .ok (.wait id)) (hfree : clock.desk.named name = [])
    {events : List (Span × Event)} (hspares : ∀ event ∈ events, event.2.Spares name) :
    ((Exchange.begin clock name now request).during events).Goes id := by
  refine (begin_goes hrunning htask hfree).during fun event hevent => ?_
  rw [begin_wait htask]
  exact hspares event hevent

/-! ## 6. Agreement -/

variable {waiting : WaitingSet} {code? : Option Int16} {fetched told : Response} {wait : Exchange}

/-- The answers to a request for a job and to one for its status agree with each other, and with
what a wait for the job has come to with its read. -/
structure Agree (waiting : WaitingSet) (id : Int64) (fetched told : Response) (wait : Exchange) :
    Prop where
  readers : (fetched.status = 404 ∧ told.status = 404) ∨
    ∃ code, fetched.Shows code ∧ told.Shows code
  missing : (∃ answer, wait.response = some answer ∧ answer.status = 404) ↔ told.status = 404
  succeeded : (∃ answer, wait.response = some answer ∧ answer.Shows 2) ↔ told.Shows 2
  cancelled : (∃ answer, wait.response = some answer ∧ answer.status = 409) ↔ told.Shows 5
  unexpected : ∀ code,
    (∃ answer, wait.response = some answer ∧ answer.ReportsUnexpected code) ↔
      told.Shows code ∧ code ≠ 2 ∧ code ≠ 5 ∧ code ∉ waiting.codes.toList
  goesOn : wait.Sleeps id ↔ ∃ code, told.Shows code ∧ code ∈ waiting.codes.toList

theorem not_sleeps {answer : Response} (h : wait.response = some answer) : ¬ wait.Sleeps id :=
  fun hsleeps => by
    rw [hsleeps.unanswered] at h
    cases h

/-- What holds of an answer to a wait holds of the one that has been given. -/
theorem exists_answer_iff {answer : Response} (h : wait.response = some answer)
    (P : Response → Prop) : (∃ other, wait.response = some other ∧ P other) ↔ P answer := by
  rw [h]
  constructor
  · rintro ⟨other, hother, hholds⟩
    obtain rfl := Option.some.inj hother
    exact hholds
  · exact fun hholds => ⟨answer, rfl, hholds⟩

theorem not_shows {response : Response} {status : Nat} (h : response.status = status)
    (hother : status ≠ 200) (code : Int16) : ¬ response.Shows code :=
  fun hshows => hother (h.symm.trans hshows.status)

theorem not_reportsUnexpected {response : Response} {status : Nat} (h : response.status = status)
    (hother : status ≠ 500) (code : Int16) : ¬ response.ReportsUnexpected code :=
  fun hreports => hother (h.symm.trans hreports.status)

theorem agree_of_absent (hread : wait.HasRead waiting id none) (hfetched : fetched.status = 404)
    (htold : told.status = 404) : Agree waiting id fetched told wait := by
  have hanswer := hread.answered rfl
  have hstatus : (waitResponse wait.sentAt id (decided id (.ok none))).status = 404 := rfl
  have hnever := not_shows htold (by decide)
  refine ⟨.inl ⟨hfetched, htold⟩, ?_, ?_, ?_, fun code => ?_, ?_⟩
  · exact iff_of_true ⟨_, hanswer, hstatus⟩ htold
  · rw [exists_answer_iff hanswer]
    exact iff_of_false (not_shows hstatus (by decide) 2) (hnever 2)
  · rw [exists_answer_iff hanswer, hstatus]
    exact iff_of_false (by decide) (hnever 5)
  · rw [exists_answer_iff hanswer]
    exact iff_of_false (not_reportsUnexpected hstatus (by decide) code) fun h => hnever code h.1
  · exact iff_of_false (not_sleeps hanswer) fun ⟨code, hshows, _⟩ => hnever code hshows

theorem agree_of_waiting {code : Int16} (hread : wait.HasRead waiting id (some code))
    (hcode : code ∈ waiting.codes.toList) (hsucceeded : 2 ∉ waiting.codes.toList)
    (hcancelled : 5 ∉ waiting.codes.toList) (hfetched : fetched.Shows code)
    (htold : told.Shows code) : Agree waiting id fetched told wait := by
  have hsleeps := hread.sleeps (decide_eq_true hcode)
  have hnever : ∀ P : Response → Prop, ¬ ∃ answer, wait.response = some answer ∧ P answer := by
    rintro P ⟨answer, hanswer, -⟩
    exact not_sleeps hanswer hsleeps
  have hother : ∀ other, other ∉ waiting.codes.toList → ¬ told.Shows other :=
    fun other hout hshows => hout (hshows.eq htold ▸ hcode)
  refine ⟨.inr ⟨code, hfetched, htold⟩, ?_, ?_, ?_, fun other => ?_, ?_⟩
  · exact iff_of_false (hnever _) fun h => absurd (htold.status.symm.trans h) (by decide)
  · exact iff_of_false (hnever _) (hother 2 hsucceeded)
  · exact iff_of_false (hnever _) (hother 5 hcancelled)
  · exact iff_of_false (hnever _) fun h => hother other h.2.2.2 h.1
  · exact iff_of_true hsleeps ⟨code, htold, hcode⟩

theorem agree_of_answer {code : Int16} {answer : Response} (hanswer : wait.response = some answer)
    (hcode : code ∉ waiting.codes.toList) (hfetched : fetched.Shows code)
    (htold : told.Shows code) (hfound : answer.status ≠ 404)
    (hsucceeded : answer.Shows 2 ↔ code = 2) (hcancelled : answer.status = 409 ↔ code = 5)
    (hunexpected : ∀ other, answer.ReportsUnexpected other ↔ other = code ∧ code ≠ 2 ∧ code ≠ 5) :
    Agree waiting id fetched told wait := by
  have hsame : ∀ other, told.Shows other ↔ code = other := fun other =>
    ⟨fun hshows => htold.eq hshows, fun heq => heq ▸ htold⟩
  refine ⟨.inr ⟨code, hfetched, htold⟩, ?_, ?_, ?_, fun other => ?_, ?_⟩
  · rw [exists_answer_iff hanswer, htold.status]
    exact iff_of_false hfound (by decide)
  · rw [exists_answer_iff hanswer, hsame, hsucceeded]
  · rw [exists_answer_iff hanswer, hsame, hcancelled]
  · rw [exists_answer_iff hanswer, hsame, hunexpected]
    constructor
    · rintro ⟨rfl, hnot2, hnot5⟩
      exact ⟨rfl, hnot2, hnot5, hcode⟩
    · rintro ⟨rfl, hnot2, hnot5, -⟩
      exact ⟨rfl, hnot2, hnot5⟩
  · exact iff_of_false (not_sleeps hanswer) fun ⟨other, hshows, hmem⟩ =>
      hcode ((hsame other).mp hshows ▸ hmem)

theorem agree_of_ended {code : Int16} (hread : wait.HasRead waiting id (some code))
    (hcode : code ∉ waiting.codes.toList) (hfetched : fetched.Shows code)
    (htold : told.Shows code) : Agree waiting id fetched told wait := by
  have hanswer := hread.answered (decide_eq_false hcode)
  simp only [decided] at hanswer
  by_cases hsucceeded : code = 2
  · rw [if_pos hsucceeded] at hanswer
    have hstatus : (waitResponse wait.sentAt id (.ok ())).status = 200 := rfl
    refine agree_of_answer hanswer hcode hfetched htold (by rw [hstatus]; decide)
      (iff_of_true (shows_status id 2) hsucceeded) ?_ fun other => ?_
    · rw [hstatus, hsucceeded]
      decide
    · exact iff_of_false (not_reportsUnexpected hstatus (by decide) other) fun h =>
        h.2.1 hsucceeded
  by_cases hcancelled : code = 5
  · rw [if_neg hsucceeded, if_pos hcancelled] at hanswer
    have hstatus : (waitResponse wait.sentAt id (.error (.cancelled id))).status = 409 := rfl
    refine agree_of_answer hanswer hcode hfetched htold (by rw [hstatus]; decide)
      (iff_of_false (not_shows hstatus (by decide) 2) hsucceeded) (iff_of_true hstatus hcancelled)
      fun other => ?_
    exact iff_of_false (not_reportsUnexpected hstatus (by decide) other) fun h => h.2.2 hcancelled
  · rw [if_neg hsucceeded, if_neg hcancelled] at hanswer
    have hreports : (waitResponse wait.sentAt id
        (.error (.unexpectedStatus id code))).ReportsUnexpected code :=
      reportsUnexpected_response id code wait.sentAt
    refine agree_of_answer hanswer hcode hfetched htold (by rw [hreports.status]; decide)
      (iff_of_false (not_shows hreports.status (by decide) 2) hsucceeded)
      (iff_of_false (by rw [hreports.status]; decide) hcancelled) fun other => ?_
    exact ⟨fun h => ⟨ofInt16_injective (Option.some.inj (h.code.symm.trans hreports.code)),
      hsucceeded, hcancelled⟩, fun h => h.1 ▸ hreports⟩

/-- Whatever a read has found, a wait that does not wait for its own ends agrees with the others. -/
theorem agree_of_hasRead (hread : wait.HasRead waiting id code?)
    (hsucceeded : 2 ∉ waiting.codes.toList) (hcancelled : 5 ∉ waiting.codes.toList)
    (htold : (code? = none ∧ fetched.status = 404 ∧ told.status = 404) ∨
      ∃ code, code? = some code ∧ fetched.Shows code ∧ told.Shows code) :
    Agree waiting id fetched told wait := by
  rcases htold with ⟨rfl, hfetched, htold⟩ | ⟨code, rfl, hfetched, htold⟩
  · exact agree_of_absent hread hfetched htold
  · by_cases hcode : code ∈ waiting.codes.toList
    · exact agree_of_waiting hread hcode hsucceeded hcancelled hfetched htold
    · exact agree_of_ended hread hcode hfetched htold

/-- The three ways to ask for a job agree.  However a service has been used, as long as rows have
come into its table by requests only, its coordinator runs and its table is open, a request for a
job and one for its status are answered alike; and so is a wait for the job, whether it begins then
or is woken then, if its set does without the codes of success and cancellation. -/
theorem readers_agree (settings : CoordinatorSettings) (moment : Moment) (visits : List Visit)
    (hvisits : ∀ visit ∈ visits, visit.isRowByHand = false)
    (hsucceeded : 2 ∉ settings.waiting.codes.toList)
    (hcancelled : 5 ∉ settings.waiting.codes.toList) :
    let clock := run (opening settings moment) visits
    clock.desk.coordinator.isShutDown = false → clock.desk.store.isClosed = false →
    ∀ (id : Int64) (ask tell : Request), ask.task = .ok (.fetch id) →
      tell.task = .ok (.status id) → ∀ asker askedAt teller toldAt, ∃ fetched told,
        (Visit.send asker askedAt ask).response? clock = some fetched ∧
        (Visit.send teller toldAt tell).response? clock = some told ∧
        (∀ request name now, request.task = .ok (.wait id) → clock.desk.named name = [] →
          Agree settings.waiting id fetched told (Exchange.begin clock name now request)) ∧
        ∀ exchange : Exchange, exchange.clock = clock → exchange.Sleeps id →
          Agree settings.waiting id fetched told (exchange.apply (.wake exchange.name)) := by
  intro clock hrunning hopen id ask tell hask htell asker askedAt teller toldAt
  have hlegible : clock.desk.store.Legible := run_legible (fun _ _ hjob => nomatch hjob) hvisits
  have hsettings : clock.desk.coordinator.settings = settings := run_settings _ visits
  obtain ⟨fetched, told, hfetched, htold, hsame⟩ :=
    readers_told hlegible hrunning hopen hask htell asker askedAt teller toldAt
  refine ⟨fetched, told, hfetched, htold, fun request name now htask hfree => ?_,
    fun exchange hclock hsleeps => ?_⟩
  · have hread := @begin_hasRead clock id name now request hrunning hopen htask hfree
    rw [hsettings] at hread
    exact agree_of_hasRead hread hsucceeded hcancelled hsame
  · have hread := wake_hasRead hsleeps (hclock ▸ hrunning) (hclock ▸ hopen)
    rw [hclock, hsettings] at hread
    exact agree_of_hasRead hread hsucceeded hcancelled hsame

def aboutJob (id : Int64) (word : String) : Request :=
  { method := "GET", target := jobPath id word }

theorem segments_aboutJob {word : String} (hword : ∀ c ∈ word.toList, IsPlain c ∧ c ≠ '/') :
    segments (routedPath (aboutJob id word).path) = ["jobs", toString id.toInt, word] := by
  have hplain : ∀ c ∈ (aboutJob id word).target.toList, IsPlain c :=
    isPlain_jobPath fun c hc => (hword c hc).1
  have htarget : (aboutJob id word).target = jobPath id word := rfl
  rw [routedPath_of_plain (htarget ▸ toList_jobPath id word) hplain, htarget,
    segments_jobPath fun c hc => (hword c hc).2]

theorem task_aboutJob (id : Int64) :
    (aboutJob id "status").task = .ok (.status id) ∧
      (aboutJob id "wait").task = .ok (.wait id) := by
  constructor
  · unfold Request.task
    rw [segments_aboutJob (by simp [IsPlain])]
    show (if toString id.toInt = "" then _ else _) = _
    rw [if_neg (Text.toString_ne_empty id.toInt), readId_toString]
    rfl
  · unfold Request.task
    rw [segments_aboutJob (by simp [IsPlain])]
    show (if toString id.toInt = "" then _ else _) = _
    rw [if_neg (Text.toString_ne_empty id.toInt), readId_toString]
    rfl

/-- A job that has been posted, and that a worker has then given a code without a name. -/
def postedAndCoded : Clock :=
  run (opening {} ⟨0, 0⟩) [smallPost, .act (.table (.setCode 1 7))]

theorem postedAndCoded_desk :
    ∃ store : MemoryStore, postedAndCoded.desk = { (opening {} ⟨0, 0⟩).desk with store := store } ∧
      store.isClosed = false ∧ store.status? 1 = some 7 := by
  have htask := task_postJob (by decide) (by cbv : Json.read? "\x7b\"a\":1\x7d" = some smallConfig)
  have hzero : Payload.zeroKey? smallConfig = none := by
    simp [smallConfig, Payload.zeroKey?, Payload.zeroKeyOfMembers?, Payload.holdsZero_eq_any]
  obtain ⟨payload, hencode⟩ : ∃ payload, Payload.encode smallConfig = .ok payload :=
    ⟨_, Payload.encode_eq_ok_iff.mpr ⟨hzero, rfl⟩⟩
  have hevent : (postJob "\x7b\"a\":1\x7d").event? "post" = some (.submit smallConfig) := by
    rw [Request.event?, htask]
    rfl
  have hposted : (smallPost.next (opening {} ⟨0, 0⟩)).desk =
      { (opening {} ⟨0, 0⟩).desk with
        store := (opening {} ⟨0, 0⟩).desk.store.append payload } := by
    rw [smallPost, Visit.next, begin_desk, hevent]
    simp only [Desk.apply, Desk.settle, Coordinator.submit, Coordinator.whenRunning, hencode]
    rfl
  refine ⟨((opening {} ⟨0, 0⟩).desk.store.append payload).setCode 1 7, ?_, rfl, ?_⟩
  · show ((smallPost.next (opening {} ⟨0, 0⟩)).apply (.table (.setCode 1 7))).2.2.desk = _
    rw [Clock.apply_desk, hposted]
    rfl
  · rw [MemoryStore.status?_setCode, MemoryStore.status?_append]
    rfl

/-- All three know of the code without a name, and to the wait it is an unexpected one. -/
theorem readers_agree_on_unnamed_code :
    ∃ fetched told answer,
      (Visit.send "get" "noon" (getJob 1)).response? postedAndCoded = some fetched ∧
      (Visit.send "status" "noon" (aboutJob 1 "status")).response? postedAndCoded = some told ∧
      (Exchange.begin postedAndCoded "wait" "noon" (aboutJob 1 "wait")).response = some answer ∧
      fetched.Shows 7 ∧ told.Shows 7 ∧ answer.ReportsUnexpected 7 := by
  obtain ⟨store, hdesk, hopen, hstatus⟩ := postedAndCoded_desk
  have hrows : ∀ visit ∈ [smallPost, .act (.table (.setCode 1 7))], visit.isRowByHand = false := by
    intro visit hvisit
    rcases List.mem_cons.mp hvisit with rfl | hvisit
    · rfl
    · obtain rfl := List.mem_singleton.mp hvisit
      rfl
  have hrunning : postedAndCoded.desk.coordinator.isShutDown = false := by rw [hdesk]; rfl
  have hstore : postedAndCoded.desk.store = store := by rw [hdesk]
  obtain ⟨hstatusTask, hwaitTask⟩ := task_aboutJob 1
  obtain ⟨fetched, told, hfetched, htold, hbegin, -⟩ :=
    readers_agree {} ⟨0, 0⟩ _ hrows (by decide) (by decide) hrunning (hstore ▸ hopen) 1 (getJob 1)
      (aboutJob 1 "status") (task_getJob 1) hstatusTask "get" "noon" "status" "noon"
  have hshown : told.Shows 7 := by
    have hresponse := response_status hrunning (hstore ▸ hopen) hstatusTask "status" "noon"
    rw [hstore, hstatus] at hresponse
    rw [Option.some.inj (htold.symm.trans hresponse)]
    exact shows_status 1 7
  have hagree := hbegin (aboutJob 1 "wait") "wait" "noon" hwaitTask (by
    show postedAndCoded.desk.named "wait" = []
    rw [hdesk]
    rfl)
  obtain ⟨answer, hanswer, hreports⟩ :=
    (hagree.unexpected 7).mpr ⟨hshown, by decide, by decide, by decide⟩
  refine ⟨fetched, told, answer, hfetched, htold, hanswer, ?_, hshown, hreports⟩
  rcases hagree.readers with ⟨-, hmissing⟩ | ⟨code, hfetchedCode, htoldCode⟩
  · exact absurd (hshown.status.symm.trans hmissing) (by decide)
  · exact htoldCode.eq hshown ▸ hfetchedCode

end Http

end JobDesk
