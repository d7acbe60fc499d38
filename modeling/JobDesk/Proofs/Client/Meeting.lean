import JobDesk.Proofs.Client.Conduct
import JobDesk.Proofs.Client.Requests
import JobDesk.Proofs.Desk.LifeCycle
import Mathlib.Logic.Relation

/-!
# Meeting — a session and the job table of the service that it calls

A client takes in whatever comes, servers serve its calls at any time, and others have their turns
in between.  `Call.Serves.job?` says what a call does to a job that is there, and
`Session.runs_safely` that no client that is interrupted ever changes a job that is not pending.
-/

namespace JobDesk

open MemoryStore (Edit SameRows)

/-! ## 1. Turns and rows -/

namespace Turn

variable {turn : Turn} {store : MemoryStore} {id key : Int64} {job : Job}

def Spares (turn : Turn) (id : Int64) : Prop :=
  ∀ store : MemoryStore, (turn.next store).job? id = store.job? id

/-- A turn that at most makes a new job leaves those alone that are there. -/
theorem job?_of_makes
    (hmakes : ∀ edit, turn.event.Makes edit → edit = .keep ∨ ∃ payload, edit = .append payload)
    (hjob : store.job? id = some job) : (turn.next store).job? id = some job := by
  obtain ⟨edit, hedit, hleads⟩ :=
    Desk.apply_edits ⟨turn.coordinator, turn.seen store, turn.waiters⟩ turn.event
  have hrows : edit.Leads store (turn.next store) := leads_of_seen hleads
  rcases hmakes edit hedit with rfl | ⟨payload, rfl⟩
  · exact (SameRows.job? hrows id).trans hjob
  · rw [SameRows.job? hrows id, Edit.apply, MemoryStore.job?_append, hjob]
    rfl

/-- A cancellation on condition changes one job at most, and only if it is pending. -/
theorem job?_of_cancelIfPending (hevent : turn.event = .cancelIfPending key)
    (hjob : store.job? id = some job) :
    (turn.next store).job? id = some job ∨ key = id ∧ job.status = Status.pending.code ∧
      (turn.next store).job? id = some { job with status := Status.cancelling.code } := by
  have hwrite : turn.event.write? = some (.swap key .pending .cancelling) := by rw [hevent]; rfl
  rcases swap_spec hwrite with ⟨-, hcode, hrows⟩ | ⟨-, hrows⟩
  · have hafter := (hrows.job? id).trans (store.job?_setCode key Status.cancelling.code id)
    rw [hjob, Option.map_some] at hafter
    by_cases hid : id = key
    · subst hid
      rw [if_pos rfl] at hafter
      rw [MemoryStore.status?, hjob] at hcode
      exact .inr ⟨rfl, Option.some.inj hcode, hafter⟩
    · rw [if_neg hid] at hafter
      exact .inl hafter
  · exact .inl ((hrows.job? id).trans hjob)

end Turn

/-- An exchange that nobody comes in between is a turn, or leaves the table alone. -/
theorem Http.exchange_next (clock : Clock) (name now : String) (request : Request) :
    let after := (Exchange.begin clock name now request).clock.desk.store
    after = clock.desk.store ∨ ∃ turn : Turn, request.event? name = some turn.event ∧
      after = turn.next clock.desk.store := by
  intro after
  have hdesk := begin_desk clock name now request
  cases hevent : request.event? name with
  | none =>
    rw [hevent] at hdesk
    exact .inl (congrArg Desk.store hdesk)
  | some event =>
    rw [hevent] at hdesk
    refine .inr ⟨⟨clock.desk.coordinator, clock.desk.store.isClosed, clock.desk.waiters, event⟩,
      rfl, ?_⟩
    exact congrArg Desk.store hdesk

/-! ## 2. Calls that are served -/

namespace Client

/-- What a call leads to at a desk: what is asked of it and, of a wait, its reads and its end. -/
inductive Call.LeadsTo (call : Call) : Event → Prop
  | asked {name : String} {event : Event} (hevent : call.request.event? name = some event) :
      LeadsTo call event
  | read (hwait : call.isWait = true) (name : String) : LeadsTo call (.wake name)
  | dropped (hwait : call.isWait = true) (name : String) : LeadsTo call (.drop name)

/-- The tables that a call can leave behind: at the end of a turn that it leads to, or of an
exchange that nobody comes in between. -/
inductive Call.Serves (call : Call) (store : MemoryStore) : MemoryStore → Prop
  | turn {turn : JobDesk.Turn} (hevent : call.LeadsTo turn.event) :
      Serves call store (turn.next store)
  | exchange {clock : Clock} (hstore : clock.desk.store = store) (name now : String) :
      Serves call store (Http.Exchange.begin clock name now call.request).clock.desk.store

variable {call : Call} {event : Event} {turn : JobDesk.Turn} {store after : MemoryStore}
  {id : Int64} {job : Job}

theorem Call.LeadsTo.makes (h : call.LeadsTo event) (hcall : call.isCancellation = false)
    (edit : Edit) (hedit : event.Makes edit) :
    edit = .keep ∨ ∃ payload, edit = .append payload := by
  cases h with
  | asked hevent =>
    cases call with
    | health =>
      rw [event?_health] at hevent
      cases hevent
    | submit config =>
      obtain ⟨read, rfl⟩ := event?_submit hevent
      cases hedit with
      | kept => exact .inl rfl
      | submitted => exact .inr ⟨_, rfl⟩
    | wait key =>
      rw [event?_wait] at hevent
      cases hevent
      cases hedit
      exact .inl rfl
    | cancelIfPending key => cases hcall
  | read | dropped =>
    cases hedit
    exact .inl rfl

theorem Call.LeadsTo.job? (h : call.LeadsTo turn.event) (hjob : store.job? id = some job) :
    (turn.next store).job? id = some job ∨
      call = .cancelIfPending id ∧ job.status = Status.pending.code ∧
        (turn.next store).job? id = some { job with status := Status.cancelling.code } := by
  cases hcall : call.isCancellation with
  | false => exact .inl (Turn.job?_of_makes (h.makes hcall) hjob)
  | true =>
    cases call with
    | health | submit | wait => cases hcall
    | cancelIfPending key =>
      generalize hevent : turn.event = event at h
      cases h with
      | asked hasked =>
        rw [Call.event?_cancelIfPending] at hasked
        cases hasked
        rcases Turn.job?_of_cancelIfPending hevent hjob with hsame | ⟨rfl, hchanged⟩
        · exact .inl hsame
        · exact .inr ⟨rfl, hchanged⟩
      | read hwait | dropped hwait => cases hwait

/-- However a call is served, a job that is there stays as it is, or is pending and called off. -/
theorem Call.Serves.job? (h : call.Serves store after) (hjob : store.job? id = some job) :
    after.job? id = some job ∨
      call = .cancelIfPending id ∧ job.status = Status.pending.code ∧
        after.job? id = some { job with status := Status.cancelling.code } := by
  cases h with
  | turn hevent => exact hevent.job? hjob
  | exchange hstore name now =>
    subst hstore
    rcases Http.exchange_next _ name now call.request with hsame | ⟨turn, hevent, hnext⟩
    · rw [hsame]
      exact .inl hjob
    · rw [hnext]
      exact Call.LeadsTo.job? (.asked hevent) hjob

/-! ## 3. Meetings -/

/-- What a client has taken in so far, and the job table. -/
structure Meeting where
  inputs : List Input := []
  store : MemoryStore

def Meeting.calls (base : String) (config : Json) (meeting : Meeting) : List Call :=
  (Session.run { base := base, config := config } meeting.inputs).calls

/-- What happens at a meeting: the client takes something in, one of its calls is served, or
somebody else has a turn. -/
inductive Meeting.Step (base : String) (config : Json) (others : JobDesk.Turn → Prop) :
    Meeting → Meeting → Prop
  | take (meeting : Meeting) (input : Input) :
      Step base config others meeting { meeting with inputs := meeting.inputs ++ [input] }
  | serve (meeting : Meeting) {call : Call} {after : MemoryStore}
      (hcall : call ∈ meeting.calls base config) (hserves : call.Serves meeting.store after) :
      Step base config others meeting { meeting with store := after }
  | other (meeting : Meeting) {turn : JobDesk.Turn} (hturn : others turn) :
      Step base config others meeting { meeting with store := turn.next meeting.store }

abbrev Meeting.Reaches (base : String) (config : Json) (others : JobDesk.Turn → Prop) :
    Meeting → Meeting → Prop :=
  Relation.ReflTransGen (Meeting.Step base config others)

variable {base : String} {config : Json} {others : JobDesk.Turn → Prop} {meeting later : Meeting}

theorem Meeting.reaches_inputs (meeting : Meeting) (inputs : List Input) :
    Reaches base config others meeting { meeting with inputs := meeting.inputs ++ inputs } := by
  induction inputs generalizing meeting with
  | nil => rw [List.append_nil]
  | cons input rest ih =>
    have hrest := ih { meeting with inputs := meeting.inputs ++ [input] }
    rw [List.append_assoc] at hrest
    exact .head (.take meeting input) hrest

/-- A job that is not pending and that others let be stays as it is in a step. -/
theorem Meeting.Step.job? (h : Step base config others meeting later)
    (hothers : ∀ turn, others turn → turn.Spares id) (hjob : meeting.store.job? id = some job)
    (hstatus : job.status ≠ Status.pending.code) : later.store.job? id = some job := by
  cases h with
  | take => exact hjob
  | serve hcall hserves =>
    rcases hserves.job? hjob with hsame | ⟨-, hpending, -⟩
    · exact hsame
    · exact absurd hpending hstatus
  | other hturn => exact (hothers _ hturn _).trans hjob

theorem Meeting.Reaches.job? (h : Reaches base config others meeting later)
    (hothers : ∀ turn, others turn → turn.Spares id) (hjob : meeting.store.job? id = some job)
    (hstatus : job.status ≠ Status.pending.code) : later.store.job? id = some job := by
  induction h with
  | refl => exact hjob
  | tail _ hstep ih => exact hstep.job? hothers ih hstatus

/-! ## 4. Sessions -/

theorem Session.interrupt_of_cancels {inputs : List Input}
    (h : .cancelIfPending id ∈
      (Session.run { base := base, config := config } inputs).calls) : .interrupt ∈ inputs := by
  rw [calls_run] at h
  obtain ⟨⟨call, fate⟩, hsent, rfl⟩ := List.mem_map.mp h
  exact ((conduct base config inputs).cancels_interrupted id fate hsent).1

/-- Sessions run safely, whatever they take in. A session asks for the health of the server first
and for nothing else unless it is well, and then submits its config, once. It asks for a
cancellation only after an interrupt and once, of the job that was submitted and on condition; it
waits again only if that was granted, and ends with 0 just where its last wait was answered well.
Wherever its calls are served, a job that is there stays as it is, unless it is pending and called
off after an interrupt; so a job that is not pending and that others let be is never changed. -/
theorem Session.runs_safely (base : String) (config : Json) :
    let session : Session := { base := base, config := config }
    (∀ inputs,
      (session.run inputs).calls = (session.sent inputs).map (·.call) ∧
      Conduct base config inputs (session.sent inputs) (session.run inputs).session.exit?) ∧
    (∀ (call : Call) id onlyPending, call.request.task = .ok (.cancel id onlyPending) ↔
      call = .cancelIfPending id ∧ onlyPending = true) ∧
    ∀ others store meeting, Meeting.Reaches base config others ⟨[], store⟩ meeting →
      (∀ call ∈ (session.run meeting.inputs).calls, ∀ after, call.Serves meeting.store after →
        ∀ id job, meeting.store.job? id = some job →
          after.job? id = some job ∨
            call = .cancelIfPending id ∧ .interrupt ∈ meeting.inputs ∧
              job.status = Status.pending.code ∧
              after.job? id = some { job with status := Status.cancelling.code }) ∧
      ∀ id job, store.job? id = some job → job.status ≠ Status.pending.code →
        (∀ turn, others turn → turn.Spares id) → meeting.store.job? id = some job := by
  intro session
  refine ⟨fun inputs => ⟨session.calls_run inputs, conduct base config inputs⟩,
    fun call id onlyPending => Call.task_eq_cancel_iff, fun others store meeting hreaches => ?_⟩
  refine ⟨fun call hcall after hserves id job hjob => ?_,
    fun id job hjob hstatus hothers => hreaches.job? hothers hjob hstatus⟩
  rcases hserves.job? hjob with hsame | ⟨rfl, hpending, hafter⟩
  · exact .inl hsame
  · exact .inr ⟨rfl, interrupt_of_cancels hcall, hpending, hafter⟩

/-- A session that is interrupted when its job has been picked up. -/
theorem Session.runs_safely_too_late :
    let base := "http://[::1]:8080"
    let inputs : List Input := [.reply (.response 200 "") ⟨0⟩,
      .reply (.response 201 "\x7b\"job_id\":1\x7d") ⟨1⟩, .interrupt]
    let found := Turn.pickUp.next (({} : MemoryStore).append #[7])
    .cancelIfPending 1 ∈ (Session.run { base := base, config := .object [] } inputs).calls ∧
      (Turn.callOff.next found).job? 1 = some ⟨1, Status.running.code, #[7], ⟨0, 0⟩⟩ := by
  intro base inputs found
  have hphase : (Session.run { base := base, config := .object [] } inputs).session.phase =
      .cancelling 1 := by decide +kernel
  have hcall := @mem_calls_of_call? { base := base, config := .object [] } inputs
    (.cancelIfPending 1) (by rw [call?, hphase])
  have hjob : found.job? 1 = some ⟨1, Status.running.code, #[7], ⟨0, 0⟩⟩ := by decide +kernel
  obtain ⟨-, -, hmeets⟩ := runs_safely base (.object [])
  have hreaches : Meeting.Reaches base (.object []) (· = Turn.pickUp)
      ⟨[], ({} : MemoryStore).append #[7]⟩ ⟨inputs, found⟩ := by
    have hpicked : Meeting.Step base (.object []) (· = Turn.pickUp) _ ⟨[], found⟩ :=
      .other ⟨[], ({} : MemoryStore).append #[7]⟩ rfl
    exact .head hpicked (Meeting.reaches_inputs ⟨[], found⟩ inputs)
  have hasked : (Call.cancelIfPending 1).LeadsTo Turn.callOff.event :=
    .asked (Call.event?_cancelIfPending "" 1)
  refine ⟨hcall, ?_⟩
  rcases (hmeets _ _ _ hreaches).1 _ hcall _ (.turn hasked) 1 _ hjob with
    hsame | ⟨-, -, hpending, -⟩
  · exact hsame
  · cases hpending

end Client

end JobDesk
