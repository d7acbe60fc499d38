import JobDesk.Proofs.Desk.Edits

/-!
# Races — one winner of a pending job

Several coordinators and workers share one table.  A call looks at its coordinator and at the table
when it is made and takes effect at one step later on; the table may have been closed in between,
and others may have had their turn.  Every write from PENDING uses up what a write of PENDING has
given.
-/

namespace JobDesk

open MemoryStore (Edit SameRows)

/-! ## 1. Turns -/

/-- A write to a job: of a code, or of the second status on condition of the first one. -/
inductive Write where
  | plain (id : Int64) (code : Int16)
  | swap (id : Int64) (expected new : Status)
  deriving DecidableEq

def Event.write? : Event → Option Write
  | .table (.setStatus id new) => some (.plain id new.code)
  | .table (.setStatusIf id expected new) => some (.swap id expected new)
  | .table (.setCode id code) => some (.plain id code)
  | .cancel id => some (.plain id Status.cancelling.code)
  | .cancelIfPending id => some (.swap id .pending .cancelling)
  | _ => none

/-- The step at which an event of one party takes effect: its coordinator and whether the table was
closed are what they were when the party began. -/
structure Turn where
  coordinator : Coordinator := {}
  sawClosed : Bool := false
  waiters : List Waiter := []
  event : Event

namespace Turn

def seen (turn : Turn) (store : MemoryStore) : MemoryStore :=
  { store with isClosed := turn.sawClosed }

def step (turn : Turn) (store : MemoryStore) : Step :=
  Desk.apply ⟨turn.coordinator, turn.seen store, turn.waiters⟩ turn.event

def answer (turn : Turn) (store : MemoryStore) : Answer := (turn.step store).answer

def next (turn : Turn) (store : MemoryStore) : MemoryStore := (turn.step store).desk.store

/-- Whether a turn is a write to a job on condition of PENDING that is let through. -/
def wins (turn : Turn) (store : MemoryStore) (id : Int64) : Bool :=
  match turn.event.write?, turn.answer store with
  | some (.swap key .pending _), .flag true => key = id
  | _, _ => false

/-- Whether a turn writes PENDING to a job that is there, or makes the job. -/
def restores (turn : Turn) (store : MemoryStore) (id : Int64) : Bool :=
  match turn.event.write?, turn.answer store with
  | some (.plain key code), .done =>
    key = id && code = Status.pending.code && (store.job? id).isSome
  | some (.swap key _ .pending), .flag true => key = id
  | _, .id key => key = id
  | _, _ => false

end Turn

/-! ## 2. What a turn does -/

def Answer.isIdle : Answer → Bool
  | .code _ | .job _ | .refused _ | .failed _ => true
  | .done | .id _ | .flag _ => false

inductive Event.Does (store : MemoryStore) (event : Event) : Answer → Edit → Prop
  | inserted (payload : Bytes) (hevent : event.write? = none) :
      Does store event (.id (store.lastId + 1)) (.append payload)
  | wrote {id : Int64} {code : Int16} (hevent : event.write? = some (.plain id code)) :
      Does store event .done (.setCode id code)
  | won {id : Int64} {expected new : Status} (hevent : event.write? = some (.swap id expected new))
      (hcode : store.status? id = some expected.code) :
      Does store event (.flag true) (.setCode id new.code)
  | lost {id : Int64} {expected new : Status} (hevent : event.write? = some (.swap id expected new))
      (hcode : store.status? id ≠ some expected.code) : Does store event (.flag false) .keep
  | removed (id : Int64) (hevent : event.write? = none) : Does store event .done (.delete id)
  | waited (hevent : event.write? = none) : Does store event .done .keep
  | idle {answer : Answer} (hanswer : answer.isIdle) : Does store event answer .keep

namespace Turn

variable {α : Type} {turn : Turn} {store : MemoryStore} {id : Int64}

def Did (turn : Turn) (store : MemoryStore) (answer : Answer) (after : MemoryStore) : Prop :=
  ∃ edit, turn.event.Does store answer edit ∧ edit.Leads store after

theorem sameRows_seen (turn : Turn) (store : MemoryStore) : SameRows store (turn.seen store) :=
  ⟨rfl, rfl, rfl⟩

theorem did_refused (error : JobError) : turn.Did store (.refused error) (turn.seen store) :=
  ⟨.keep, .idle rfl, turn.sameRows_seen store⟩

theorem did_failed (error : StoreError) : turn.Did store (.failed error) (turn.seen store) :=
  ⟨.keep, .idle rfl, turn.sameRows_seen store⟩

theorem did_edit {answer : Answer} {edit : Edit} (h : turn.event.Does store answer edit) :
    turn.Did store answer (edit.apply (turn.seen store)) := by
  refine ⟨edit, h, ?_⟩
  cases edit <;> exact ⟨rfl, rfl, rfl⟩

theorem did_table (answer : α → Answer) {operation : α × MemoryStore}
    (h : turn.Did store (answer operation.1) operation.2) :
    turn.Did store (Desk.storeAnswer answer ((turn.seen store).whenOpen operation).1)
      ((turn.seen store).whenOpen operation).2 := by
  rcases (turn.seen store).whenOpen_spec operation with ⟨heq, -⟩ | ⟨heq, -⟩
  · rw [heq]
    exact did_failed .poolClosed
  · rw [heq]
    exact h

theorem did_ofStore {desk : Desk} (answer : α → Answer) {operation : α × MemoryStore}
    (notices : α → List Coordinator.Notice) (h : turn.Did store (answer operation.1) operation.2) :
    let step := desk.settle answer (.ofStore ((turn.seen store).whenOpen operation) notices)
    turn.Did store step.answer step.desk.store := by
  rcases (turn.seen store).whenOpen_spec operation with ⟨heq, -⟩ | ⟨heq, -⟩
  · rw [heq]
    exact did_refused (.store .poolClosed)
  · rw [heq]
    exact h

theorem did_running {desk : Desk} (answer : α → Answer) (c : Coordinator)
    {operation : Unit → Coordinator.Outcome MemoryStore α}
    (h : let step := desk.settle answer (operation ())
      turn.Did store step.answer step.desk.store) :
    let step := desk.settle answer (c.whenRunning (turn.seen store) operation)
    turn.Did store step.answer step.desk.store := by
  unfold Coordinator.whenRunning
  split
  · exact did_refused .shutDown
  · exact h

theorem did_swap {expected new : Status}
    (hevent : turn.event.write? = some (.swap id expected new)) :
    let operation := if (turn.seen store).status? id = some expected.code then
      (true, (turn.seen store).setCode id new.code) else (false, turn.seen store)
    turn.Did store (.flag operation.1) operation.2 := by
  have hsame : (turn.seen store).status? id = store.status? id := rfl
  intro operation
  by_cases hcode : store.status? id = some expected.code
  · have hoperation : operation = (true, (turn.seen store).setCode id new.code) :=
      if_pos (hsame.trans hcode)
    rw [hoperation]
    exact did_edit (.won hevent hcode)
  · have hoperation : operation = (false, turn.seen store) :=
      if_neg fun heq => hcode (hsame.symm.trans heq)
    rw [hoperation]
    exact did_edit (.lost hevent hcode)

theorem did_idle {answer : Answer} {after : MemoryStore} (hrows : SameRows store after)
    (hanswer : answer.isIdle) : turn.Did store answer after :=
  ⟨.keep, .idle hanswer, hrows⟩

theorem answer_putBack (desk : Desk) (waiter : Waiter) (notices : List Coordinator.Notice) :
    (desk.putBack waiter notices).answer = .done := by
  unfold Desk.putBack
  split <;> rfl

theorem did_wait (hevent : ∀ edit, turn.event.Makes edit → edit = .keep)
    (hwrite : turn.event.write? = none) (hanswer : turn.answer store = .done) :
    turn.Did store (turn.answer store) (turn.next store) := by
  obtain ⟨edit, hmakes, hleads⟩ :=
    Desk.apply_edits ⟨turn.coordinator, turn.seen store, turn.waiters⟩ turn.event
  obtain rfl := hevent edit hmakes
  rw [hanswer]
  exact ⟨.keep, .waited hwrite, (turn.sameRows_seen store).trans hleads⟩

theorem did_act (coordinator : Coordinator) (sawClosed : Bool) (waiters : List Waiter)
    (store : MemoryStore) (action : TableAction) :
    let turn : Turn := ⟨coordinator, sawClosed, waiters, .table action⟩
    turn.Did store (turn.answer store) (turn.next store) := by
  intro turn
  cases action with
  | insert payload =>
    apply did_table .id
    exact did_edit (.inserted payload rfl)
  | setStatus id status =>
    apply did_table fun _ => .done
    exact did_edit (.wrote rfl)
  | setStatusIf id expected new =>
    apply did_table .flag
    exact did_swap rfl
  | fetchStatus id =>
    apply did_table .code
    exact did_idle ⟨rfl, rfl, rfl⟩ rfl
  | fetchJob id =>
    apply did_table .job
    exact did_idle (turn.sameRows_seen store) rfl
  | setCode id code => exact did_edit (.wrote rfl)
  | delete id => exact did_edit (.removed id rfl)
  | close =>
    exact ⟨.keep, .waited rfl, ⟨rfl, rfl, rfl⟩⟩

/-- One step of one party, whatever it has seen before: the answer and the table come of one edit.
-/
theorem did (turn : Turn) (store : MemoryStore) :
    turn.Did store (turn.answer store) (turn.next store) := by
  obtain ⟨coordinator, sawClosed, waiters, event⟩ := turn
  cases event with
  | table action => exact did_act coordinator sawClosed waiters store action
  | submit config =>
    apply did_running .id coordinator
    split
    · exact did_refused (.encoding _)
    · apply did_ofStore .id
      exact did_edit (.inserted _ rfl)
  | cancel id =>
    apply did_running (fun _ => .done) coordinator
    apply did_ofStore (fun _ => .done)
    exact did_edit (.wrote rfl)
  | cancelIfPending id =>
    -- Only the swap has an answer that tells whether it has written.
    apply did_running .flag coordinator
    apply did_ofStore .flag
    exact did_swap rfl
  | status id =>
    apply did_running .code coordinator
    apply did_ofStore .code
    exact did_idle ⟨rfl, rfl, rfl⟩ rfl
  | fetch id =>
    apply did_running .job coordinator
    apply did_ofStore .job
    exact did_idle ⟨rfl, rfl, rfl⟩ rfl
  | shutDown =>
    apply did_wait (fun _ h => by cases h; rfl) rfl
    simp only [answer, step, Desk.apply, Desk.shutDown]
    split <;> rfl
  | wait => exact did_wait (fun _ h => by cases h; rfl) rfl (answer_putBack ..)
  | wake name =>
    apply did_wait (fun _ h => by cases h; rfl) rfl
    unfold answer step Desk.apply
    simp only
    split
    · exact answer_putBack ..
    · rfl
  | abandon name =>
    apply did_wait (fun _ h => by cases h; rfl) rfl
    unfold answer step Desk.apply
    simp only
    split
    · exact answer_putBack ..
    · rfl
  | drop name =>
    apply did_wait (fun _ h => by cases h; rfl) rfl
    unfold answer step Desk.apply
    simp only
    split <;> rfl

/-! ## 3. One step -/

/-- A conditional write is let through where the job has the code expected of it; it then has the
new one, and otherwise all rows are as they were. -/
theorem swap_spec {expected new : Status}
    (hevent : turn.event.write? = some (.swap id expected new)) :
    (turn.answer store = .flag true ∧ store.status? id = some expected.code ∧
      SameRows (store.setCode id new.code) (turn.next store)) ∨
    (turn.answer store ≠ .flag true ∧ SameRows store (turn.next store)) := by
  obtain ⟨edit, hdoes, hleads⟩ := turn.did store
  generalize turn.answer store = answer at hdoes
  cases hdoes with
  | won hwrite hcode =>
    rw [hevent] at hwrite
    cases hwrite
    exact .inl ⟨rfl, hcode, hleads⟩
  | lost => exact .inr ⟨nofun, hleads⟩
  | idle hanswer =>
    refine .inr ⟨fun heq => ?_, hleads⟩
    rw [heq] at hanswer
    cases hanswer
  | inserted _ hwrite | wrote hwrite | removed _ hwrite | waited hwrite =>
    rw [hevent] at hwrite
    cases hwrite

theorem wins_iff : turn.wins store id = true ↔
    (∃ new, turn.event.write? = some (.swap id .pending new)) ∧ turn.answer store = .flag true := by
  unfold wins
  split
  · rename_i key new hwrite hanswer
    simp [hwrite, hanswer]
  · rename_i hother
    constructor
    · intro hfalse
      cases hfalse
    · rintro ⟨⟨new, hwrite⟩, hanswer⟩
      exact absurd hanswer (hother id new hwrite)

/-- A write from PENDING that is let through finds PENDING there, and leaves something else there
unless it writes PENDING itself. -/
theorem pending_of_wins (h : turn.wins store id = true) :
    store.status? id = some Status.pending.code ∧
      ((turn.next store).status? id = some Status.pending.code →
        turn.restores store id = true) := by
  obtain ⟨⟨new, hwrite⟩, hanswer⟩ := wins_iff.mp h
  rcases swap_spec hwrite with ⟨-, hcode, hrows⟩ | ⟨hlost, -⟩
  · refine ⟨hcode, fun hpending => ?_⟩
    rw [hrows.status?, MemoryStore.status?_setCode, hcode, Option.map_some, if_pos rfl] at hpending
    obtain rfl : new = .pending := Status.code_injective (Option.some.inj hpending)
    simp [restores, hwrite, hanswer]
  · exact absurd hanswer hlost

/-- A job is pending after a turn only if it was before, or if the turn has written PENDING. -/
theorem pending_of_next (h : (turn.next store).status? id = some Status.pending.code) :
    store.status? id = some Status.pending.code ∨ turn.restores store id = true := by
  obtain ⟨edit, hdoes, hleads⟩ := turn.did store
  -- A turn that leaves a job pending has found it so, unless it has made or set it pending itself.
  rw [SameRows.status? hleads] at h
  generalize hanswer : turn.answer store = answer at hdoes
  cases hdoes with
  | lost | waited | idle => exact .inl h
  | inserted payload hwrite =>
    rw [Edit.apply, MemoryStore.status?_append] at h
    by_cases hid : id = store.lastId + 1
    · exact .inr (by simp [restores, hwrite, hanswer, hid])
    · rw [if_neg hid, Option.or_none] at h
      exact .inl h
  | removed key _ =>
    rw [Edit.apply, MemoryStore.status?_delete] at h
    split at h
    · cases h
    · exact .inl h
  | wrote hwrite =>
    rename_i key code
    rw [Edit.apply, MemoryStore.status?_setCode] at h
    by_cases hid : id = key
    · subst hid
      obtain ⟨old, hold, hcode⟩ := Option.map_eq_some_iff.mp h
      rw [if_pos rfl] at hcode
      obtain ⟨job, hjob, -⟩ := Option.map_eq_some_iff.mp hold
      exact .inr (by simp [restores, hwrite, hanswer, hcode, hjob])
    · simp only [if_neg hid, Option.map_id'] at h
      exact .inl h
  | won hwrite hcode =>
    rename_i key expected new
    rw [Edit.apply, MemoryStore.status?_setCode] at h
    by_cases hid : id = key
    · subst hid
      rw [hcode, Option.map_some, if_pos rfl] at h
      obtain rfl : new = .pending := Status.code_injective (Option.some.inj h)
      exact .inr (by simp [restores, hwrite, hanswer])
    · simp only [if_neg hid, Option.map_id'] at h
      exact .inl h

/-- A cancellation on condition is let in by what its party has seen, and let through by PENDING. -/
theorem answer_cancelIfPending (hevent : turn.event = .cancelIfPending id) :
    turn.answer store =
      if turn.coordinator.isShutDown then .refused .shutDown
      else if turn.sawClosed then .refused (.store .poolClosed)
      else .flag (decide (store.status? id = some Status.pending.code)) := by
  obtain ⟨coordinator, sawClosed, waiters, event⟩ := turn
  subst hevent
  rw [answer, step, Desk.apply, Coordinator.cancelIfPending, Coordinator.whenRunning]
  split
  · rfl
  · cases sawClosed with
    | true => rfl
    | false =>
      by_cases hcode : store.status? id = some Status.pending.code
      · rw [decide_eq_true hcode]
        exact congrArg (fun operation : Bool × MemoryStore => Answer.flag operation.1)
          (if_pos hcode)
      · rw [decide_eq_false hcode]
        exact congrArg (fun operation : Bool × MemoryStore => Answer.flag operation.1)
          (if_neg hcode)

/-! ## 4. Runs -/

def run (store : MemoryStore) (turns : List Turn) : MemoryStore :=
  turns.foldl (fun store turn => turn.next store) store

/-- How many turns of a run are of a kind, each on the table that it finds. -/
def count (kind : Turn → MemoryStore → Bool) : MemoryStore → List Turn → Nat
  | _, [] => 0
  | store, turn :: rest => (kind turn store).toNat + count kind (turn.next store) rest

theorem count_append (kind : Turn → MemoryStore → Bool) (store : MemoryStore)
    (turns more : List Turn) :
    count kind store (turns ++ more) =
      count kind store turns + count kind (run store turns) more := by
  induction turns generalizing store with
  | nil => rw [List.nil_append, count, Nat.zero_add, run, List.foldl_nil]
  | cons turn rest ih =>
    rw [List.cons_append, count, count, ih, Nat.add_assoc]
    rfl

def credit (store : MemoryStore) (id : Int64) : Nat :=
  if store.status? id = some Status.pending.code then 1 else 0

theorem credit_le_one (store : MemoryStore) (id : Int64) : credit store id ≤ 1 := by
  unfold credit
  split <;> decide

theorem wins_add_credit_le (turn : Turn) (store : MemoryStore) (id : Int64) :
    (turn.wins store id).toNat + credit (turn.next store) id ≤
      credit store id + (turn.restores store id).toNat := by
  unfold credit
  by_cases hnext : (turn.next store).status? id = some Status.pending.code
  · cases hwins : turn.wins store id with
    | true =>
      obtain ⟨hpending, hrestores⟩ := pending_of_wins hwins
      rw [if_pos hpending, if_pos hnext, hrestores hnext]
      exact Nat.le_refl _
    | false =>
      rcases pending_of_next hnext with hpending | hrestores
      · rw [if_pos hpending, if_pos hnext]
        simp
      · rw [hrestores, if_pos hnext]
        simp
  · rw [if_neg hnext]
    cases hwins : turn.wins store id with
    | true =>
      rw [if_pos (pending_of_wins hwins).1]
      simp
    | false => simp

/-- A run takes no more from the credit than was there at first and has come to it since. -/
theorem count_wins_le (store : MemoryStore) (turns : List Turn) (id : Int64) :
    count (·.wins · id) store turns ≤ credit store id + count (·.restores · id) store turns := by
  induction turns generalizing store with
  | nil => exact Nat.zero_le _
  | cons turn rest ih =>
    have hstep := turn.wins_add_credit_le store id
    have hrest := ih (turn.next store)
    simp only [count]
    omega

/-- After a write from PENDING that got through, and as long as PENDING is not written again, none
gets through and none changes a row. -/
theorem lost_after_win {turn other : Turn} {between later : List Turn} {new : Status}
    (hquiet : count (·.restores · id) store (turn :: between ++ other :: later) = 0)
    (hwins : turn.wins store id = true)
    (hother : other.event.write? = some (.swap id .pending new)) :
    let found := run store (turn :: between)
    other.answer found ≠ .flag true ∧ (other.next found).rows = found.rows := by
  intro found
  rw [List.cons_append, count, Nat.add_eq_zero_iff] at hquiet
  obtain ⟨hturn, hrest⟩ := hquiet
  have hspent : credit (turn.next store) id = 0 := by
    have hstep := turn.wins_add_credit_le store id
    have hcredit := credit_le_one store id
    rw [hwins, Bool.toNat_true] at hstep
    omega
  have hnone : count (·.wins · id) (turn.next store) (between ++ other :: later) = 0 := by
    have hlaw := count_wins_le (turn.next store) (between ++ other :: later) id
    omega
  rw [count_append, count, Nat.add_eq_zero_iff, Nat.add_eq_zero_iff] at hnone
  have hlost : other.answer found ≠ .flag true := by
    intro hanswer
    have hwon : other.wins found id = true := wins_iff.mpr ⟨⟨new, hother⟩, hanswer⟩
    have hzero : (other.wins found id).toNat = 0 := hnone.2.1
    rw [hwon] at hzero
    cases hzero
  rcases swap_spec hother with ⟨hanswer, -⟩ | ⟨-, hrows⟩
  · exact absurd hanswer hlost
  · exact ⟨hlost, hrows.rows⟩

/-- Of all writes from PENDING to one job, whoever makes them and however they fall in with what
others do, no more get through than PENDING was there at first or has been written since; after one
that got through, none does before PENDING is written again. A cancellation on condition gets
through where its job is pending when it takes effect, and changes nothing where it does not. -/
theorem one_winner (store : MemoryStore) (turns : List Turn) (id : Int64) :
    count (·.wins · id) store turns ≤ credit store id + count (·.restores · id) store turns ∧
    (count (·.restores · id) store turns = 0 →
      count (·.wins · id) store turns ≤ 1 ∧
      ∀ before turn between other later, turns = before ++ (turn :: between ++ other :: later) →
        turn.wins (run store before) id = true →
        ∀ new, other.event.write? = some (.swap id .pending new) →
          let found := run (run store before) (turn :: between)
          other.answer found ≠ .flag true ∧ (other.next found).rows = found.rows) ∧
    ∀ turn : Turn, turn.event = .cancelIfPending id → ∀ found : MemoryStore,
      (turn.answer found = .flag true ↔
        turn.coordinator.isShutDown = false ∧ turn.sawClosed = false ∧
          found.status? id = some Status.pending.code) ∧
      (turn.answer found = .flag true →
        (turn.next found).status? id = some Status.cancelling.code) ∧
      (turn.answer found ≠ .flag true → (turn.next found).rows = found.rows) := by
  have hlaw := count_wins_le store turns id
  refine ⟨hlaw, fun hquiet => ⟨?_, ?_⟩, fun turn hevent found => ?_⟩
  · have hcredit := credit_le_one store id
    omega
  · intro before turn between other later hturns hwins new hother
    rw [hturns, count_append] at hquiet
    exact lost_after_win (Nat.eq_zero_of_add_eq_zero_left hquiet) hwins hother
  · have hwrite : turn.event.write? = some (.swap id .pending .cancelling) := by rw [hevent]; rfl
    refine ⟨?_, fun hanswer => ?_, fun hanswer => ?_⟩
    · rw [answer_cancelIfPending hevent]
      cases turn.coordinator.isShutDown <;> cases turn.sawClosed <;> simp
    · rcases swap_spec hwrite with ⟨-, hcode, hrows⟩ | ⟨hlost, -⟩
      · rw [hrows.status?, MemoryStore.status?_setCode, hcode]
        simp
      · exact absurd hanswer hlost
    · rcases swap_spec hwrite with ⟨hwon, -⟩ | ⟨-, hrows⟩
      · exact absurd hwon hanswer
      · exact hrows.rows

def pickUp : Turn := { event := .table (.setStatusIf 1 .pending .running) }

/-- A coordinator that is asked to cancel the first job if nobody has taken it up. -/
def callOff : Turn := { event := .cancelIfPending 1 }

/-- A worker is faster than a coordinator. -/
theorem called_off_too_late :
    let store := ({} : MemoryStore).append #[7]
    count (·.restores · 1) store [pickUp, callOff] = 0 ∧ pickUp.wins store 1 = true ∧
      callOff.answer (run store [pickUp]) ≠ .flag true ∧
      (callOff.next (run store [pickUp])).rows = (run store [pickUp]).rows := by
  intro store
  have hquiet : count (·.restores · 1) store [pickUp, callOff] = 0 := by decide +kernel
  have hwins : pickUp.wins store 1 = true := by decide +kernel
  obtain ⟨-, hrace, -⟩ := one_winner store [pickUp, callOff] 1
  exact ⟨hquiet, hwins, (hrace hquiet).2 [] pickUp [] callOff [] rfl hwins .cancelling rfl⟩

end Turn

end JobDesk
