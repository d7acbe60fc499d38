import JobDesk.Proofs.Desk.Races

/-!
# Life cycle — what becomes of the status of a job

A turn leaves the status of a job as it is, makes the job, writes to it or removes it, and
`Turn.Moves` says which.  A coordinator makes jobs that are PENDING and writes nothing but
CANCELLING.  Where it does so on condition only, and workers let jobs be that have ended, the end of
a job is final.
-/

namespace JobDesk

open MemoryStore (Edit SameRows)

/-! ## 1. Statuses -/

def Status.endsJob (code : Int16) : Bool := (Status.ofCode? code).any (·.isTerminal)

theorem Status.endsJob_iff {code : Int16} :
    Status.endsJob code = true ↔ code = 2 ∨ code = 3 ∨ code = 5 := by
  constructor
  · intro h
    unfold endsJob at h
    cases hknown : ofCode? code with
    | none =>
      rw [hknown] at h
      cases h
    | some status =>
      rw [hknown] at h
      have hcode : status.code = code := by
        have hfound := List.find?_some hknown
        exact eq_of_beq hfound
      subst hcode
      cases status with
      | pending | running | cancelling => cases h
      | succeeded => exact .inl rfl
      | failed => exact .inr (.inl rfl)
      | cancelled => exact .inr (.inr rfl)
  · rintro (rfl | rfl | rfl) <;> rfl

def MemoryStore.hasEnded (store : MemoryStore) (id : Int64) : Bool :=
  (store.status? id).any Status.endsJob

namespace Turn

variable {turn : Turn} {store : MemoryStore} {turns : List Turn} {id : Int64}

/-- Whether a turn is one of those who use the table directly. -/
def isWorkers (turn : Turn) : Bool :=
  match turn.event with
  | .table _ => true
  | _ => false

def written? (turn : Turn) (store : MemoryStore) : Option Int64 :=
  match turn.event.write?, turn.answer store with
  | some (.plain id _), .done => some id
  | some (.swap id _ _), .flag true => some id
  | _, _ => none

inductive Moves (turn : Turn) (store : MemoryStore) (id : Int64) : Option Int16 → Prop
  | same : Moves turn store id (store.status? id)
  | made (hnone : store.status? id = none)
      (hevent : (∃ config, turn.event = .submit config) ∨
        ∃ payload, turn.event = .table (.insert payload)) :
      Moves turn store id (some Status.pending.code)
  | wrote {old code : Int16} (hevent : turn.event.write? = some (.plain id code))
      (hanswer : turn.answer store = .done) (hcode : store.status? id = some old) :
      Moves turn store id (some code)
  | won {expected new : Status} (hevent : turn.event.write? = some (.swap id expected new))
      (hanswer : turn.answer store = .flag true)
      (hcode : store.status? id = some expected.code) : Moves turn store id (some new.code)
  | removed (hevent : turn.event = .table (.delete id)) : Moves turn store id none

/-! ## 2. One turn -/

theorem moves_of_status? {after : MemoryStore} (hrows : SameRows store after) :
    turn.Moves store id (after.status? id) := by
  rw [hrows.status?]
  exact .same

theorem moves_append {after : MemoryStore} {payload : Bytes}
    (hrows : SameRows (store.append payload) after)
    (hevent : (∃ config, turn.event = .submit config) ∨
      ∃ payload, turn.event = .table (.insert payload)) :
    turn.Moves store id (after.status? id) := by
  have hstatus := (hrows.status? id).trans (store.status?_append payload id)
  cases hfound : store.status? id with
  | some code =>
    rw [hstatus, hfound, Option.some_or, ← hfound]
    exact .same
  | none =>
    rw [hstatus, hfound, Option.none_or]
    split
    · exact .made hfound hevent
    · rw [← hfound]
      exact .same

theorem moves_setCode {after : MemoryStore} {key : Int64} {code : Int16}
    (hrows : SameRows (store.setCode key code) after)
    (h : id = key → ∀ old, store.status? id = some old → turn.Moves store id (some code)) :
    turn.Moves store id (after.status? id) := by
  have hstatus := (hrows.status? id).trans (store.status?_setCode key code id)
  cases hfound : store.status? id with
  | none =>
    rw [hstatus, hfound, Option.map_none, ← hfound]
    exact .same
  | some old =>
    rw [hstatus, hfound, Option.map_some]
    split
    · rename_i hid
      exact h hid old hfound
    · rw [← hfound]
      exact .same

theorem moves_delete {after : MemoryStore} {key : Int64}
    (hrows : SameRows (store.delete key) after) (hevent : turn.event = .table (.delete key)) :
    turn.Moves store id (after.status? id) := by
  rw [hrows.status?, store.status?_delete]
  split
  · rename_i hid
    exact .removed (hid ▸ hevent)
  · exact .same

theorem leads_of_seen {after : MemoryStore} {edit : Edit}
    (h : edit.Leads (turn.seen store) after) : edit.Leads store after := by
  cases edit <;> exact ⟨h.rows, h.lastId, h.now⟩

theorem moves (turn : Turn) (store : MemoryStore) (id : Int64) :
    turn.Moves store id ((turn.next store).status? id) := by
  -- Inserts and removals show in the edit.  Whether a write was let through shows in the answer.
  cases hwrite : turn.event.write? with
  | none =>
    obtain ⟨edit, hmakes, hleads⟩ :=
      Desk.apply_edits ⟨turn.coordinator, turn.seen store, turn.waiters⟩ turn.event
    -- An edit of the table as the party has seen it is one of the table that is there.
    have hrows : edit.Leads store (turn.next store) := leads_of_seen hleads
    generalize hevent : turn.event = event at hmakes hwrite
    cases hmakes with
    | kept => exact moves_of_status? hrows
    | inserted payload => exact moves_append hrows (.inr ⟨payload, hevent⟩)
    | submitted hencode => exact moves_append hrows (.inl ⟨_, hevent⟩)
    | removed key => exact moves_delete hrows hevent
    | written | writtenIf | coded | cancelled | cancelledIf => cases hwrite
  | some write =>
    cases write with
    | plain key code =>
      obtain ⟨edit, hdoes, hleads⟩ := turn.did store
      generalize hanswer : turn.answer store = answer at hdoes
      cases hdoes with
      | wrote hevent =>
        obtain ⟨rfl, rfl⟩ := Write.plain.inj (Option.some.inj (hwrite.symm.trans hevent))
        refine moves_setCode hleads fun hid old hold => ?_
        subst hid
        exact .wrote hwrite hanswer hold
      | idle => exact moves_of_status? hleads
      | inserted _ hevent | won hevent | lost hevent | removed _ hevent | waited hevent =>
        rw [hwrite] at hevent
        cases hevent
    | swap key expected new =>
      rcases swap_spec hwrite with ⟨hanswer, hcode, hrows⟩ | ⟨-, hrows⟩
      · refine moves_setCode hrows fun hid _ _ => ?_
        subst hid
        exact .won hwrite hanswer hcode
      · exact moves_of_status? hrows

/-! ## 3. Turns of a coordinator -/

theorem event_of_plain {code : Int16} (hworkers : turn.isWorkers = false)
    (hwrite : turn.event.write? = some (.plain id code)) :
    turn.event = .cancel id ∧ code = Status.cancelling.code := by
  obtain ⟨coordinator, sawClosed, waiters, event⟩ := turn
  cases event with
  | cancel key =>
    obtain ⟨rfl, rfl⟩ := Write.plain.inj (Option.some.inj hwrite)
    exact ⟨rfl, rfl⟩
  | table => cases hworkers
  | submit | cancelIfPending | status | fetch | shutDown | wait | wake | abandon | drop =>
    cases hwrite

theorem event_of_swap {expected new : Status} (hworkers : turn.isWorkers = false)
    (hwrite : turn.event.write? = some (.swap id expected new)) :
    turn.event = .cancelIfPending id ∧ expected = .pending ∧ new = .cancelling := by
  obtain ⟨coordinator, sawClosed, waiters, event⟩ := turn
  cases event with
  | cancelIfPending key =>
    obtain ⟨rfl, rfl, rfl⟩ := Write.swap.inj (Option.some.inj hwrite)
    exact ⟨rfl, rfl, rfl⟩
  | table => cases hworkers
  | submit | cancel | status | fetch | shutDown | wait | wake | abandon | drop => cases hwrite

/-- A coordinator leaves a status as it is, but for CANCELLING where it cancels the job, on
condition only from PENDING. -/
theorem status?_of_coordinator {code : Int16} (hworkers : turn.isWorkers = false)
    (hcode : store.status? id = some code) :
    let after := (turn.next store).status? id
    after = some code ∨ after = some Status.cancelling.code ∧
      (turn.event = .cancel id ∨
        turn.event = .cancelIfPending id ∧ code = Status.pending.code) := by
  intro after
  have hmoves := turn.moves store id
  change turn.Moves store id after at hmoves
  generalize after = status at hmoves
  cases hmoves with
  | same => exact .inl hcode
  | made hnone =>
    rw [hnone] at hcode
    cases hcode
  | wrote hwrite =>
    obtain ⟨hevent, rfl⟩ := event_of_plain hworkers hwrite
    exact .inr ⟨rfl, .inl hevent⟩
  | won hwrite _ hfound =>
    obtain ⟨hevent, rfl, rfl⟩ := event_of_swap hworkers hwrite
    rw [hcode] at hfound
    exact .inr ⟨rfl, .inr ⟨hevent, Option.some.inj hfound⟩⟩
  | removed hevent =>
    rw [isWorkers, hevent] at hworkers
    cases hworkers

theorem status?_of_new (hnone : store.status? id = none) :
    let after := (turn.next store).status? id
    after = none ∨ after = some Status.pending.code ∧
      ((∃ config, turn.event = .submit config) ∨
        ∃ payload, turn.event = .table (.insert payload)) := by
  intro after
  have hmoves := turn.moves store id
  change turn.Moves store id after at hmoves
  generalize after = status at hmoves
  cases hmoves with
  | same => exact .inl hnone
  | made _ hevent => exact .inr ⟨rfl, hevent⟩
  | wrote _ _ hcode | won _ _ hcode =>
    rw [hnone] at hcode
    cases hcode
  | removed => exact .inl rfl

/-- A cancellation that is let in sets the job to CANCELLING, if it is there. -/
theorem status?_of_cancel (hevent : turn.event = .cancel id)
    (hrunning : turn.coordinator.isShutDown = false) (hopen : turn.sawClosed = false) :
    (turn.next store).status? id =
      (store.status? id).map fun _ => Status.cancelling.code := by
  obtain ⟨⟨settings, isShutDown⟩, sawClosed, waiters, event⟩ := turn
  obtain rfl : event = .cancel id := hevent
  obtain rfl : isShutDown = false := hrunning
  obtain rfl : sawClosed = false := hopen
  have hstatus := store.status?_setCode id Status.cancelling.code id
  simp only [if_true] at hstatus
  exact hstatus

/-- A cancellation on condition that is let in sets the job to CANCELLING, if it is PENDING. -/
theorem status?_of_cancelIfPending (hevent : turn.event = .cancelIfPending id)
    (hrunning : turn.coordinator.isShutDown = false) (hopen : turn.sawClosed = false) :
    (turn.next store).status? id =
      if store.status? id = some Status.pending.code then some Status.cancelling.code
      else store.status? id := by
  have hanswer := @answer_cancelIfPending turn store id hevent
  rw [hrunning, hopen] at hanswer
  have hwrite : turn.event.write? = some (.swap id .pending .cancelling) := by rw [hevent]; rfl
  rcases swap_spec hwrite with ⟨-, hcode, hrows⟩ | ⟨hlost, hrows⟩
  · rw [if_pos hcode, hrows.status?, MemoryStore.status?_setCode, hcode, Option.map_some,
      if_pos rfl]
  · rw [hrows.status?, if_neg]
    intro hcode
    apply hlost
    simp [hanswer, hcode]

/-! ## 4. Runs that keep to the rules -/

/-- Whether a turn keeps to the rules on the table that it finds: nobody cancels but on condition,
and no worker writes to a job that has ended. -/
def isOrderly (turn : Turn) (store : MemoryStore) : Bool :=
  match turn.event with
  | .cancel _ => false
  | .table _ => (turn.written? store).all fun id => !store.hasEnded id
  | _ => true

def areOrderly : MemoryStore → List Turn → Bool
  | _, [] => true
  | store, turn :: rest => turn.isOrderly store && areOrderly (turn.next store) rest

theorem run_append (store : MemoryStore) (turns more : List Turn) :
    run store (turns ++ more) = run (run store turns) more :=
  List.foldl_append

theorem areOrderly_append (store : MemoryStore) (turns more : List Turn) :
    areOrderly store (turns ++ more) =
      (areOrderly store turns && areOrderly (run store turns) more) := by
  induction turns generalizing store with
  | nil => rfl
  | cons turn rest ih =>
    rw [List.cons_append, areOrderly, areOrderly, ih, Bool.and_assoc]
    rfl

theorem hasEnded_of_written (hworkers : turn.isWorkers = true)
    (horderly : turn.isOrderly store = true) (hwritten : turn.written? store = some id) :
    store.hasEnded id = false := by
  obtain ⟨coordinator, sawClosed, waiters, event⟩ := turn
  cases event with
  | table action =>
    have hall : (written? _ store).all (fun id => !store.hasEnded id) = true := horderly
    rw [hwritten] at hall
    simpa using hall
  | submit | cancel | cancelIfPending | status | fetch | shutDown | wait | wake | abandon | drop =>
    cases hworkers

theorem event_ne_cancel (horderly : turn.isOrderly store = true) : turn.event ≠ .cancel id := by
  intro hevent
  rw [isOrderly, hevent] at horderly
  cases horderly

/-- The end of a job is final in a turn that keeps to the rules and does not remove the job. -/
theorem final_next {code : Int16} (horderly : turn.isOrderly store = true)
    (hkept : turn.event ≠ .table (.delete id)) (hends : Status.endsJob code = true)
    (hcode : store.status? id = some code) : (turn.next store).status? id = some code := by
  have hended : store.hasEnded id = true := by
    rw [MemoryStore.hasEnded, hcode]
    exact hends
  have hmoves := turn.moves store id
  generalize (turn.next store).status? id = status at hmoves
  cases hmoves with
  | same => exact hcode
  | made hnone =>
    rw [hnone] at hcode
    cases hcode
  | wrote hwrite hanswer =>
    cases hworkers : turn.isWorkers with
    | true =>
      have hopen := hasEnded_of_written hworkers horderly (by rw [written?, hwrite, hanswer])
      rw [hended] at hopen
      cases hopen
    | false => exact absurd (event_of_plain hworkers hwrite).1 (event_ne_cancel horderly)
  | won hwrite hanswer hfound =>
    cases hworkers : turn.isWorkers with
    | true =>
      have hopen := hasEnded_of_written hworkers horderly (by rw [written?, hwrite, hanswer])
      rw [hended] at hopen
      cases hopen
    -- What a coordinator cancels on condition is pending, and has not ended.
    | false =>
      obtain ⟨-, rfl, -⟩ := event_of_swap hworkers hwrite
      rw [hcode] at hfound
      rw [Option.some.inj hfound] at hends
      cases hends
  | removed hevent => exact absurd hevent hkept

theorem final_run {code : Int16} (horderly : areOrderly store turns = true)
    (hkept : ∀ turn ∈ turns, turn.event ≠ .table (.delete id))
    (hends : Status.endsJob code = true) (hcode : store.status? id = some code) :
    (run store turns).status? id = some code := by
  induction turns generalizing store with
  | nil => exact hcode
  | cons turn rest ih =>
    obtain ⟨hfirst, hrest⟩ := Bool.and_eq_true_iff.mp horderly
    obtain ⟨hturn, hlater⟩ := List.forall_mem_cons.mp hkept
    exact ih hrest hlater (final_next hfirst hturn hends hcode)

/-- What a coordinator may do to a status. However its turns fall in with those of workers, each of
them leaves every job there and every status as it is, but that a cancellation sets its job to
CANCELLING, on condition only from PENDING; the jobs that it makes are pending.  In a run in which
nobody cancels but on condition, and no worker writes to a job that has ended, the end of a job is
final until the job is removed, and the coordinator moves jobs to CANCELLING only from PENDING. -/
theorem statuses_kept (store : MemoryStore) (turns : List Turn) :
    (∀ before turn later, turns = before ++ turn :: later → turn.isWorkers = false →
      let found := run store before
      let after := turn.next found
      (∀ id code, found.status? id = some code →
        after.status? id = some code ∨ after.status? id = some Status.cancelling.code ∧
          (turn.event = .cancel id ∨
            turn.event = .cancelIfPending id ∧ code = Status.pending.code)) ∧
      (∀ id, found.status? id = none → after.status? id = none ∨
        after.status? id = some Status.pending.code ∧ ∃ config, turn.event = .submit config) ∧
      (turn.coordinator.isShutDown = false → turn.sawClosed = false → ∀ id,
        (turn.event = .cancel id →
          after.status? id = (found.status? id).map fun _ => Status.cancelling.code) ∧
        (turn.event = .cancelIfPending id → after.status? id =
          if found.status? id = some Status.pending.code then some Status.cancelling.code
          else found.status? id))) ∧
    (areOrderly store turns = true →
      (∀ before between later, turns = before ++ (between ++ later) → ∀ id code,
        code = 2 ∨ code = 3 ∨ code = 5 → (run store before).status? id = some code →
        (∀ turn ∈ between, turn.event ≠ .table (.delete id)) →
        (run store (before ++ between)).status? id = some code) ∧
      ∀ before turn later, turns = before ++ turn :: later → turn.isWorkers = false →
        let found := run store before
        let after := turn.next found
        ∀ id code, found.status? id = some code → after.status? id ≠ some code →
          code = Status.pending.code ∧ after.status? id = some Status.cancelling.code) := by
  refine ⟨fun before turn later _ hworkers => ?_, fun horderly => ⟨?_, ?_⟩⟩
  · refine ⟨fun id code => status?_of_coordinator hworkers, fun id hnone => ?_,
      fun hrunning hopen id => ?_⟩
    · rcases status?_of_new hnone with hnone | ⟨hpending, hsubmit | ⟨payload, hinsert⟩⟩
      · exact .inl hnone
      · exact .inr ⟨hpending, hsubmit⟩
      · rw [isWorkers, hinsert] at hworkers
        cases hworkers
    · exact ⟨fun hevent => status?_of_cancel hevent hrunning hopen,
        fun hevent => status?_of_cancelIfPending hevent hrunning hopen⟩
  · rintro before between later rfl id code hends hcode hkept
    -- The discipline holds of the turns in between, and they keep an end.
    rw [areOrderly_append, areOrderly_append, Bool.and_eq_true_iff, Bool.and_eq_true_iff]
      at horderly
    rw [run_append]
    exact final_run horderly.2.1 hkept (Status.endsJob_iff.mpr hends) hcode
  · rintro before turn later rfl hworkers found after id code hcode hchanged
    rw [areOrderly_append, areOrderly, Bool.and_eq_true_iff, Bool.and_eq_true_iff] at horderly
    rcases status?_of_coordinator hworkers hcode with hsame | ⟨hcancelling, hcancel | ⟨-, hpending⟩⟩
    · exact absurd hsame hchanged
    · exact absurd hcancel (event_ne_cancel horderly.2.1)
    · exact ⟨hpending, hcancelling⟩

/-- A job that a worker has brought to its end is not called off any more. -/
theorem statuses_kept_after_end :
    let store := ({} : MemoryStore).append #[7]
    let ending : Turn := { event := .table (.setStatus 1 .succeeded) }
    let turns := [pickUp, ending, callOff, { event := .table (.delete 1) }]
    areOrderly store turns = true ∧
      (run store [pickUp, ending]).status? 1 = some Status.succeeded.code ∧
      (run store [pickUp, ending, callOff]).status? 1 = some Status.succeeded.code := by
  intro store ending turns
  have horderly : areOrderly store turns = true := by decide +kernel
  have hended : (run store [pickUp, ending]).status? 1 = some Status.succeeded.code := by
    decide +kernel
  have hfinal := ((statuses_kept store turns).2 horderly).1
  refine ⟨horderly, hended, hfinal [pickUp, ending] [callOff] _ rfl 1 _ (.inl rfl) hended ?_⟩
  simp [callOff]

end Turn

end JobDesk
