import JobDesk.Proofs.Desk.Counts
import JobDesk.Proofs.Desk.Races
import JobDesk.Proofs.Desk.Waits

/-!
# Interleavings — a desk at which calls and reads are under way

Between the time at which a call is made and the step at which it takes effect others have their
turn, and so they have between a wait's asking for a read and the answer to it, and between a signal
and the wait's looking at it.  What is looked at when a call or a read begins, shutdown and closing,
is not looked at again: what has been let in comes to its end.  The ways that a move can go are said
once (`BusyDesk.goes`).  A desk at which everything happens in one go is such a desk (`run_whole`),
and what is done in two parts with nothing in between is done in one go (`call_effect`,
`ask_answer`, `fire_look`).
-/

namespace JobDesk

open Coordinator (Notice Signal Signals WaitState)
open MemoryStore (SameRows SameButReads)

/-! ## 1. Calls -/

inductive Errand where
  | table (action : TableAction)
  | submit (config : Json)
  | cancel (id : Int64)
  | cancelIfPending (id : Int64)
  | status (id : Int64)
  | fetch (id : Int64)

namespace Errand

def event : Errand → Event
  | table action => .table action
  | submit config => .submit config
  | cancel id => .cancel id
  | cancelIfPending id => .cancelIfPending id
  | status id => .status id
  | fetch id => .fetch id

def needsCoordinator : Errand → Bool
  | table _ => false
  | submit _ | cancel _ | cancelIfPending _ | status _ | fetch _ => true

end Errand

def Coordinator.WaitState.isReading : Coordinator.WaitState → Bool
  | .reading _ => true
  | _ => false

namespace Desk

/-- Whether an errand is let in; what is not is turned away at once, or is in no need of it. -/
def admits (desk : Desk) (errand : Errand) : Bool :=
  !desk.store.isClosed && !(errand.needsCoordinator && desk.coordinator.isShutDown)

def reopened (desk : Desk) : Desk :=
  { desk with
    coordinator := { desk.coordinator with isShutDown := false }
    store := { desk.store with isClosed := false } }

def takeEffect (desk : Desk) (errand : Errand) : Step :=
  let step := desk.reopened.apply errand.event
  { step with
    desk := { desk with
      -- A read was counted when it was let in, and is not counted again.
      store := { step.desk.store with
        isClosed := desk.store.isClosed || step.desk.store.isClosed
        statusReads := desk.store.statusReads } } }

def letIn (desk : Desk) (errand : Errand) : Desk :=
  { desk with
    store := { desk.store with
      statusReads := (desk.apply errand.event).desk.store.statusReads } }

/-! ## 2. Reads of waits -/

/-- A wait that may have asked for a read: a closed table turns it away, and an open one counts the
read. -/
def ask (desk : Desk) (waiter : Waiter) : Step :=
  if desk.store.isClosed then desk.read waiter
  else
    match waiter.state with
    | .reading _ =>
      { desk with store := (JobStore.fetchStatus desk.store waiter.id).2 : Desk }.putBack waiter []
    | _ => desk.putBack waiter []

def idle (desk : Desk) : Step := { answer := .done, desk := desk }

def elapse (desk : Desk) (name : String) : Step :=
  match desk.take? name with
  | some (waiter, rest) =>
    match waiter.state with
    | .sleeping _ =>
      rest.ask { waiter with state := waiter.state.onTimer waiter.id (desk.signals waiter) }
    | _ => desk.idle
  | none => desk.idle

def answerRead (desk : Desk) (name : String) : Step :=
  match desk.take? name with
  | some (waiter, rest) =>
    match waiter.state with
    | .reading lastSeen =>
      let (state, notices) := Coordinator.takeAnswer desk.coordinator.settings.waiting waiter.id
        (desk.signals waiter) lastSeen (.ok (desk.store.status? waiter.id))
      rest.putBack { waiter with state := state } notices
    | _ => desk.idle
  | none => desk.idle

/-- The token of a wait fires; if the wait sleeps, it has not looked yet. -/
def fire (desk : Desk) (name : String) : Step :=
  match desk.take? name with
  | some (waiter, rest) => rest.putBack { waiter with token := waiter.hasToken } []
  | none => desk.idle

/-- The coordinator is shut down, and no wait that sleeps has looked yet. -/
def halt (desk : Desk) : Step :=
  let (coordinator, notices) := desk.coordinator.shutDown
  { answer := .done, desk := { desk with coordinator := coordinator }, notices := notices }

def look (desk : Desk) (name : String) : Step :=
  match desk.take? name with
  | some (waiter, rest) => rest.putBack (desk.signal waiter) []
  | none => desk.idle

/-- Whether an event would wake a wait whose read is under way: its interval has not begun. -/
def isEarly (desk : Desk) (event : Event) : Bool :=
  desk.waiters.any fun waiter => event.wakes waiter.name && waiter.state.isReading

end Desk

/-! ## 3. Moves -/

/-- A desk, and the errands that are under way with those who have them run. -/
structure BusyDesk where
  desk : Desk := {}
  calls : List (String × Errand) := []

inductive Move where
  /-- Something happens in one go. -/
  | whole (event : Event)
  /-- Somebody makes a call, and gives up the one before. -/
  | call (caller : String) (errand : Errand)
  /-- The call of somebody takes effect. -/
  | effect (caller : String)
  /-- A wait begins, and asks for its first read. What it picks among two signals is chosen with
  it. -/
  | begin (name : String) (id : Int64) (token : Option Bool) (pick : Signal := default)
  /-- The interval of a wait is over, and it asks for its next read. -/
  | elapse (name : String)
  /-- The table answers the read of a wait. -/
  | answer (name : String)
  /-- The token of a wait fires, and the wait has not looked yet. -/
  | fire (name : String)
  /-- The coordinator is shut down, and no wait has looked yet. -/
  | halt
  /-- A wait that sleeps looks at what has fired. -/
  | look (name : String)
  /-- Time passes. -/
  | tick (now : Moment)

structure Moved where
  step : Step
  calls : List (String × Errand)

def Moved.busy (moved : Moved) : BusyDesk := ⟨moved.step.desk, moved.calls⟩

namespace BusyDesk

def callsBut (busy : BusyDesk) (caller : String) : List (String × Errand) :=
  busy.calls.filter (·.1 != caller)

def apply (busy : BusyDesk) : Move → Moved
  | .whole event =>
    ⟨if busy.desk.isEarly event then busy.desk.idle else busy.desk.apply event, busy.calls⟩
  | .call caller errand =>
    if busy.desk.admits errand then
      ⟨(busy.desk.letIn errand).idle, (caller, errand) :: busy.callsBut caller⟩
    else ⟨busy.desk.apply errand.event, busy.callsBut caller⟩
  | .effect caller =>
    match busy.calls.lookup caller with
    | some errand => ⟨busy.desk.takeEffect errand, busy.callsBut caller⟩
    | none => ⟨busy.desk.idle, busy.calls⟩
  | .begin name id token pick =>
    let signals : Signals := ⟨token.getD false, busy.desk.coordinator.isShutDown, pick⟩
    ⟨busy.desk.ask ⟨name, id, token.getD false, token.isSome, pick,
      Coordinator.beginRead id signals none⟩, busy.calls⟩
  | .elapse name => ⟨busy.desk.elapse name, busy.calls⟩
  | .answer name => ⟨busy.desk.answerRead name, busy.calls⟩
  | .fire name => ⟨busy.desk.fire name, busy.calls⟩
  | .halt => ⟨busy.desk.halt, busy.calls⟩
  | .look name => ⟨busy.desk.look name, busy.calls⟩
  | .tick now =>
    let store := { busy.desk.store with now := now }
    ⟨{ busy.desk with store := store : Desk }.idle, busy.calls⟩

def after (busy : BusyDesk) (moves : List Move) : BusyDesk :=
  moves.foldl (fun busy move => (busy.apply move).busy) busy

def steps : BusyDesk → List Move → List Step
  | _, [] => []
  | busy, move :: rest => (busy.apply move).step :: steps (busy.apply move).busy rest

variable {busy : BusyDesk} {event : Event} {caller : String} {errand : Errand}

theorem apply_whole (h : busy.desk.isEarly event = false) :
    busy.apply (.whole event) = ⟨busy.desk.apply event, busy.calls⟩ := by
  rw [apply, h]
  rfl

theorem apply_early (h : busy.desk.isEarly event = true) :
    busy.apply (.whole event) = ⟨busy.desk.idle, busy.calls⟩ := by
  rw [apply, if_pos h]

theorem apply_call (h : busy.desk.admits errand = true) :
    busy.apply (.call caller errand) =
      ⟨(busy.desk.letIn errand).idle, (caller, errand) :: busy.callsBut caller⟩ :=
  if_pos h

theorem apply_call_refused (h : busy.desk.admits errand = false) :
    busy.apply (.call caller errand) = ⟨busy.desk.apply errand.event, busy.callsBut caller⟩ := by
  rw [apply, h]
  rfl

theorem apply_effect (h : busy.calls.lookup caller = some errand) :
    busy.apply (.effect caller) = ⟨busy.desk.takeEffect errand, busy.callsBut caller⟩ := by
  rw [apply, h]

theorem apply_effect_none (h : busy.calls.lookup caller = none) :
    busy.apply (.effect caller) = ⟨busy.desk.idle, busy.calls⟩ := by
  rw [apply, h]

inductive Goes (busy : BusyDesk) : Move → Moved → Prop
  /-- The interval of the wait has not begun. -/
  | early {event : Event} (h : busy.desk.isEarly event = true) :
      Goes busy (.whole event) ⟨busy.desk.idle, busy.calls⟩
  | whole {event : Event} (h : busy.desk.isEarly event = false) :
      Goes busy (.whole event) ⟨busy.desk.apply event, busy.calls⟩
  | letIn {caller : String} {errand : Errand} (h : busy.desk.admits errand = true) :
      Goes busy (.call caller errand)
        ⟨(busy.desk.letIn errand).idle, (caller, errand) :: busy.callsBut caller⟩
  | refused {caller : String} {errand : Errand} (h : busy.desk.admits errand = false) :
      Goes busy (.call caller errand) ⟨busy.desk.apply errand.event, busy.callsBut caller⟩
  | effect {caller : String} {errand : Errand} (h : busy.calls.lookup caller = some errand) :
      Goes busy (.effect caller) ⟨busy.desk.takeEffect errand, busy.callsBut caller⟩
  /-- The caller has no call under way. -/
  | nothing {caller : String} (h : busy.calls.lookup caller = none) :
      Goes busy (.effect caller) ⟨busy.desk.idle, busy.calls⟩
  | begin (name : String) (id : Int64) (token : Option Bool) (pick : Signal) :
      Goes busy (.begin name id token pick) (busy.apply (.begin name id token pick))
  | elapse (name : String) : Goes busy (.elapse name) ⟨busy.desk.elapse name, busy.calls⟩
  | answer (name : String) : Goes busy (.answer name) ⟨busy.desk.answerRead name, busy.calls⟩
  | fire (name : String) : Goes busy (.fire name) ⟨busy.desk.fire name, busy.calls⟩
  | halt : Goes busy .halt ⟨busy.desk.halt, busy.calls⟩
  | look (name : String) : Goes busy (.look name) ⟨busy.desk.look name, busy.calls⟩
  | tick (now : Moment) : Goes busy (.tick now) (busy.apply (.tick now))

/-- A move goes in one of these ways; what is proved of each holds of every move. -/
theorem goes (busy : BusyDesk) (move : Move) : busy.Goes move (busy.apply move) := by
  cases move with
  | whole event =>
    cases hearly : busy.desk.isEarly event with
    | true =>
      rw [apply_early hearly]
      exact .early hearly
    | false =>
      rw [apply_whole hearly]
      exact .whole hearly
  | call caller errand =>
    cases hadmitted : busy.desk.admits errand with
    | true =>
      rw [apply_call hadmitted]
      exact .letIn hadmitted
    | false =>
      rw [apply_call_refused hadmitted]
      exact .refused hadmitted
  | effect caller =>
    cases hcall : busy.calls.lookup caller with
    | none =>
      rw [apply_effect_none hcall]
      exact .nothing hcall
    | some errand =>
      rw [apply_effect hcall]
      exact .effect hcall
  | begin name id token pick => exact .begin name id token pick
  | elapse name => exact .elapse name
  | answer name => exact .answer name
  | fire name => exact .fire name
  | halt => exact .halt
  | look name => exact .look name
  | tick now => exact .tick now

theorem mem_of_lookup (h : busy.calls.lookup caller = some errand) :
    (caller, errand) ∈ busy.calls := by
  obtain ⟨before, after, hcalls, -⟩ := List.lookup_eq_some_iff.mp h
  rw [hcalls]
  exact List.mem_append_right before List.mem_cons_self

end BusyDesk

/-! ## 4. Everything in one go -/

namespace Desk

variable {desk : Desk} {waiter : Waiter} {name : String}

def NoReads (desk : Desk) : Prop := ∀ waiter ∈ desk.waiters, waiter.state.isReading = false

theorem isReading_beginSleep (id : Int64) (signals : Signals) (lastSeen : Option Int16) :
    (Coordinator.beginSleep id signals lastSeen).isReading = false := by
  unfold Coordinator.beginSleep
  split <;> rfl

theorem isReading_takeAnswer (waiting : WaitingSet) (id : Int64) (signals : Signals)
    (lastSeen : Option Int16) (answer : StatusAnswer) :
    (Coordinator.takeAnswer waiting id signals lastSeen answer).1.isReading = false := by
  cases hgoes : Coordinator.goesOn waiting answer with
  | true =>
    obtain ⟨code, hsleep⟩ := Coordinator.takeAnswer_of_goesOn hgoes
    rw [hsleep]
    exact isReading_beginSleep id signals (some code)
  | false =>
    rw [Coordinator.takeAnswer_of_not_goesOn hgoes]
    rfl

theorem isReading_read (waiting : WaitingSet) (id : Int64) (signals : Signals)
    (store : MemoryStore) (state : WaitState) :
    (state.read waiting id signals store).1.isReading = false := by
  cases state with
  | reading lastSeen => exact isReading_takeAnswer waiting id signals lastSeen _
  | sleeping lastSeen | ended result => rfl

theorem isReading_onSignal (id : Int64) (signals : Signals) (state : WaitState) :
    (state.onSignal id signals).isReading = state.isReading := by
  cases state with
  | sleeping lastSeen => exact isReading_beginSleep id signals lastSeen
  | reading lastSeen | ended result => rfl

theorem mem_putBack {other : Waiter} {notices : List Notice}
    (h : other ∈ (desk.putBack waiter notices).desk.waiters) :
    other ∈ desk.waiters ∨ other = waiter := by
  rw [(putBack_spec desk waiter notices).2.2] at h
  rcases List.mem_append.mp h with hold | hnew
  · exact .inl hold
  · split at hnew
    · cases hnew
    · exact .inr (List.mem_singleton.mp hnew)

theorem mem_without {other : Waiter} (h : other ∈ (desk.without name).waiters) :
    other ∈ desk.waiters :=
  (List.mem_filter.mp h).1

theorem mem_read {other : Waiter} (h : other ∈ (desk.read waiter).desk.waiters) :
    other ∈ desk.waiters ∨ other.state.isReading = false := by
  rcases mem_putBack h with hold | rfl
  · exact .inl hold
  · exact .inr (isReading_read _ _ _ _ _)

/-- Whoever is left by a shutdown was there before, and may have looked at his signals. -/
theorem mem_shutDown {other : Waiter} (h : other ∈ (desk.apply .shutDown).desk.waiters) :
    ∃ old ∈ desk.waiters, (old.name = other.name ∧ old.id = other.id) ∧
      (other.state = old.state ∨ ∃ signals, other.state = old.state.onSignal old.id signals) := by
  simp only [apply, shutDown] at h
  split at h
  · exact ⟨other, h, ⟨rfl, rfl⟩, .inl rfl⟩
  · obtain ⟨hmapped, -⟩ := List.mem_filter.mp h
    obtain ⟨old, hold, rfl⟩ := List.mem_map.mp hmapped
    exact ⟨old, hold, ⟨rfl, rfl⟩, .inr ⟨_, rfl⟩⟩

/-- Where everything happens in one go, no read of a wait is under way. -/
theorem NoReads.apply (h : desk.NoReads) (event : Event) : (desk.apply event).desk.NoReads := by
  intro waiter hmem
  cases event with
  | table | submit | cancel | cancelIfPending | status | fetch => exact h waiter hmem
  | shutDown =>
    obtain ⟨old, hold, -, hstate⟩ := mem_shutDown hmem
    rcases hstate with hsame | ⟨signals, hsignal⟩
    · exact hsame ▸ h old hold
    · rw [hsignal]
      exact (isReading_onSignal _ _ _).trans (h old hold)
  | wait =>
    rcases mem_read hmem with hold | hread
    · exact h waiter hold
    · exact hread
  | wake name =>
    cases hhead : (desk.named name).head? with
    | none =>
      simp only [Desk.apply, take?_eq, hhead] at hmem
      exact h waiter hmem
    | some sleeper =>
      rw [apply_wake hhead] at hmem
      rcases mem_read hmem with hold | hread
      · exact h waiter (mem_without hold)
      · exact hread
  | abandon name =>
    cases hhead : (desk.named name).head? with
    | none =>
      simp only [Desk.apply, take?_eq, hhead] at hmem
      exact h waiter hmem
    | some sleeper =>
      rw [apply_abandon hhead] at hmem
      rcases mem_putBack hmem with hold | rfl
      · exact h waiter (mem_without hold)
      · have hsleeper := h sleeper (List.mem_filter.mp (List.mem_of_mem_head? hhead)).1
        exact (isReading_onSignal _ _ _).trans hsleeper
  | drop name =>
    simp only [Desk.apply, take?_eq] at hmem
    cases hhead : (desk.named name).head? with
    | none =>
      rw [hhead] at hmem
      exact h waiter hmem
    | some sleeper =>
      rw [hhead] at hmem
      exact h waiter (mem_without hmem)

theorem NoReads.isEarly (h : desk.NoReads) (event : Event) : desk.isEarly event = false := by
  refine List.any_eq_false.mpr fun waiter hmem hboth => ?_
  rw [h waiter hmem, Bool.and_false] at hboth
  cases hboth

theorem isEarly_of_ne_wake (h : ∀ name, event ≠ .wake name) (desk : Desk) :
    desk.isEarly event = false := by
  refine List.any_eq_false.mpr fun waiter _ hboth => ?_
  cases event with
  | wake name => exact h name rfl
  | _ => cases hboth

theorem isEarly_of_not_isWait (h : event.isWait = false) (desk : Desk) :
    desk.isEarly event = false := by
  refine isEarly_of_ne_wake (fun name => ?_) desk
  rintro rfl
  cases h

/-- A desk at which everything happens in one go is a busy desk with no calls under way. -/
theorem run_whole (h : desk.NoReads) (events : List Event) :
    let busy : BusyDesk := ⟨desk, []⟩
    busy.steps (events.map .whole) = (desk.run events).1 ∧
      busy.after (events.map .whole) = ⟨(desk.run events).2, []⟩ := by
  -- No read is ever under way, so that no event is early.
  induction events generalizing desk with
  | nil => exact ⟨rfl, rfl⟩
  | cons event rest ih =>
    have hwhole := @BusyDesk.apply_whole ⟨desk, []⟩ event (h.isEarly event)
    obtain ⟨hsteps, hafter⟩ := ih (h.apply event)
    constructor
    · rw [List.map_cons, BusyDesk.steps, hwhole]
      exact congrArg _ hsteps
    · rw [List.map_cons, BusyDesk.after, List.foldl_cons, hwhole]
      exact hafter

/-! ## 5. In two parts -/

theorem isWait_event (errand : Errand) : errand.event.isWait = false := by
  cases errand <;> rfl

theorem apply_errand (desk : Desk) (errand : Errand) :
    (desk.apply errand.event).desk =
      { desk with store := (desk.apply errand.event).desk.store } := by
  cases errand <;> rfl

theorem letIn_alike (desk : Desk) (errand : Errand) : (desk.letIn errand).Alike desk :=
  ⟨rfl, rfl⟩

/-- Those who are let in by an open table and a running coordinator see the desk as it is. -/
theorem reopened_eq (hopen : desk.store.isClosed = false)
    (hrunning : desk.coordinator.isShutDown = false) : desk.reopened = desk := by
  obtain ⟨⟨settings, isShutDown⟩, ⟨rows, lastId, isClosed, reads, now⟩, waiters⟩ := desk
  obtain rfl : isShutDown = false := hrunning
  obtain rfl : isClosed = false := hopen
  rfl

theorem Alike.takeEffect {other : Desk} (h : desk.Alike other) (errand : Errand) :
    (desk.takeEffect errand).Alike (other.takeEffect errand) := by
  have hreopened : desk.reopened.Alike other.reopened :=
    ⟨by rw [reopened, reopened, h.coordinator],
      h.store.map ({ · with isClosed := false }) fun _ _ => rfl⟩
  obtain ⟨hanswer, hnotices, -, hstore⟩ := hreopened.apply (isWait_event errand)
  refine ⟨hanswer, hnotices, h.coordinator, ?_⟩
  simp only [Desk.takeEffect, h.store.isClosed]
  -- Whether the table is closed in the end is decided alike; the reads are those of either desk.
  have hclosing := hstore.map
    (fun store => { store with isClosed := desk.store.isClosed || store.isClosed }) fun _ _ => rfl
  exact (SameButReads.counted _ _).symm.trans (hclosing.trans (.counted _ _))

/-- Those who have been let in have their errands run as they were when they were let in. -/
theorem apply_reopened {errand : Errand} (hadmitted : desk.admits errand = true) :
    let step := (desk.letIn errand).reopened.apply errand.event
    let whole := desk.apply errand.event
    step.answer = whole.answer ∧ step.notices = whole.notices ∧
      SameButReads step.desk.store whole.desk.store := by
  obtain ⟨hopen, hrunning⟩ := Bool.and_eq_true_iff.mp hadmitted
  rw [Bool.not_eq_true'] at hopen hrunning
  cases hneeds : errand.needsCoordinator with
  | true =>
    rw [hneeds, Bool.true_and] at hrunning
    rw [@reopened_eq (desk.letIn errand) hopen hrunning]
    obtain ⟨hanswer, hnotices, -, hstore⟩ := (desk.letIn_alike errand).apply (isWait_event errand)
    exact ⟨hanswer, hnotices, hstore⟩
  -- The table is nothing that a coordinator is asked for, be it shut down or not.
  | false =>
    cases errand with
    | table action =>
      have hsame : SameButReads (desk.letIn (.table action)).reopened.store desk.store := by
        unfold SameButReads
        simp only [reopened, letIn, ← hopen]
      obtain ⟨hanswer, hstore⟩ := act_alike hsame action
      exact ⟨hanswer, rfl, hstore⟩
    | submit | cancel | cancelIfPending | status | fetch => cases hneeds

/-- An errand that takes effect as soon as it is let in is run in one go. -/
theorem takeEffect_letIn {errand : Errand} (hadmitted : desk.admits errand = true) :
    let step := (desk.letIn errand).takeEffect errand
    let whole := desk.apply errand.event
    step.answer = whole.answer ∧ step.notices = whole.notices ∧ step.desk = whole.desk := by
  obtain ⟨hanswer, hnotices, hstore⟩ := apply_reopened hadmitted
  obtain ⟨hopen, -⟩ := Bool.and_eq_true_iff.mp hadmitted
  rw [Bool.not_eq_true'] at hopen
  refine ⟨hanswer, hnotices, ?_⟩
  rw [apply_errand desk errand, hstore]
  simp only [takeEffect, letIn, hopen, Bool.false_or]

theorem call_effect {errand : Errand} (caller : String) (hadmitted : desk.admits errand = true) :
    let called := (⟨desk, []⟩ : BusyDesk).apply (.call caller errand)
    let moved := called.busy.apply (.effect caller)
    let whole := desk.apply errand.event
    moved.step.answer = whole.answer ∧ moved.step.notices = whole.notices ∧
      moved.busy = ⟨whole.desk, []⟩ := by
  intro called moved whole
  have hcalled : called.busy = ⟨desk.letIn errand, [(caller, errand)]⟩ :=
    congrArg Moved.busy (@BusyDesk.apply_call ⟨desk, []⟩ caller errand hadmitted)
  have hmoved : moved = ⟨(desk.letIn errand).takeEffect errand, []⟩ := by
    simp only [moved, hcalled]
    rw [BusyDesk.apply_effect List.lookup_cons_self]
    simp [BusyDesk.callsBut]
  obtain ⟨hanswer, hnotices, hdesk⟩ := takeEffect_letIn hadmitted
  rw [hmoved]
  exact ⟨hanswer, hnotices, congrArg (BusyDesk.mk · []) hdesk⟩

theorem take?_append_self (hfree : desk.named waiter.name = []) :
    ({ desk with waiters := desk.waiters ++ [waiter] } : Desk).take? waiter.name =
      some (waiter, desk) := by
  rw [named, List.filter_eq_nil_iff] at hfree
  have hrest : desk.waiters.filter (·.name != waiter.name) = desk.waiters :=
    List.filter_eq_self.mpr fun other hmem => by simpa using hfree other hmem
  have hfound : desk.waiters.find? (·.name == waiter.name) = none :=
    List.find?_eq_none.mpr hfree
  simp [take?, List.filter_append, hrest, hfound]

/-- A wait either reads in one go when it asks for its read, or does so if the answer comes at once.
-/
theorem ask_answer (hfree : desk.named waiter.name = []) :
    let asked := desk.ask waiter
    asked = desk.read waiter ∨
      (asked.ended = [] ∧ asked.notices = [] ∧
        asked.desk.answerRead waiter.name = desk.read waiter) := by
  obtain ⟨name, id, token, hasToken, pick, state⟩ := waiter
  cases hclosed : desk.store.isClosed with
  | true => exact .inl (if_pos hclosed)
  | false =>
    have hopen : ¬ desk.store.isClosed = true := by simp [hclosed]
    cases state with
    -- Who is not at a read asks for none, and is put back in either case.
    | sleeping lastSeen | ended result => exact .inl (if_neg hopen)
    | reading lastSeen =>
      right
      have hanswer : JobStore.fetchStatus desk.store id = (.ok (desk.store.status? id),
          { desk.store with statusReads := desk.store.statusReads + 1 }) := if_neg hopen
      have htake := @take?_append_self
        { desk with store := { desk.store with statusReads := desk.store.statusReads + 1 } }
        ⟨name, id, token, hasToken, pick, .reading lastSeen⟩ hfree
      simp only [ask, if_neg hopen, hanswer, putBack, answerRead, htake, read, WaitState.read]
      exact ⟨trivial, trivial, rfl⟩

/-- A wait whose token fires and that looks at once is given up in one go. -/
theorem fire_look (hstate : ∀ waiter ∈ desk.named name, ∀ result, waiter.state ≠ .ended result) :
    (desk.fire name).ended = [] ∧ (desk.fire name).notices = [] ∧
      (desk.fire name).desk.look name = desk.apply (.abandon name) := by
  cases hhead : (desk.named name).head? with
  | none =>
    simp [fire, look, apply, take?_eq, hhead, idle]
  | some waiter =>
    have hgoes := hstate waiter (List.mem_of_mem_head? hhead)
    obtain rfl := name_of_head? hhead
    have hback : (desk.fire waiter.name) =
        { answer := .done
          desk := { desk.without waiter.name with
            waiters := (desk.without waiter.name).waiters ++
              [{ waiter with token := waiter.hasToken }] } } := by
      simp only [fire, take?_eq, hhead, Option.map_some, putBack]
    have htake := @take?_append_self (desk.without waiter.name)
      { waiter with token := waiter.hasToken } (named_without_self desk waiter.name)
    rw [apply_abandon hhead, hback]
    refine ⟨rfl, rfl, ?_⟩
    simp only [look, htake]
    rfl

/-! ## 6. What waits change -/

theorem putBack_alike (desk : Desk) (waiter : Waiter) (notices : List Notice) :
    desk.Alike (desk.putBack waiter notices).desk :=
  ⟨(putBack_spec desk waiter notices).2.1.symm, by
    rw [putBack_store]
    exact .refl desk.store⟩

theorem read_alike (desk : Desk) (waiter : Waiter) : desk.Alike (desk.read waiter).desk := by
  obtain ⟨store, notices, hread⟩ := read_eq desk waiter
  refine ⟨?_, desk.read_sameButReads waiter⟩
  rw [hread]
  exact (putBack_spec { desk with store := store } _ notices).2.1.symm

theorem ask_alike (desk : Desk) (waiter : Waiter) : desk.Alike (desk.ask waiter).desk := by
  unfold ask
  split
  · exact desk.read_alike waiter
  · rename_i hopen
    split
    · have hcounted :
          desk.Alike { desk with store := (JobStore.fetchStatus desk.store waiter.id).2 } := by
        simp only [JobStore.fetchStatus, MemoryStore.whenOpen, if_neg hopen]
        exact ⟨rfl, .counted desk.store _⟩
      exact hcounted.trans (putBack_alike _ waiter [])
    · exact desk.putBack_alike waiter []

theorem without_alike (desk : Desk) (name : String) : desk.Alike (desk.without name) :=
  ⟨rfl, .refl desk.store⟩

theorem elapse_alike (desk : Desk) (name : String) : desk.Alike (desk.elapse name).desk := by
  unfold elapse
  rw [take?_eq]
  cases (desk.named name).head? with
  | none => exact .refl desk
  | some waiter =>
    simp only [Option.map_some]
    split
    · exact (desk.without_alike name).trans ((desk.without name).ask_alike _)
    · exact .refl desk

theorem answerRead_alike (desk : Desk) (name : String) :
    desk.Alike (desk.answerRead name).desk := by
  unfold answerRead
  rw [take?_eq]
  cases (desk.named name).head? with
  | none => exact .refl desk
  | some waiter =>
    simp only [Option.map_some]
    split
    · exact (desk.without_alike name).trans ((desk.without name).putBack_alike _ _)
    · exact .refl desk

theorem fire_alike (desk : Desk) (name : String) : desk.Alike (desk.fire name).desk := by
  unfold fire
  rw [take?_eq]
  cases (desk.named name).head? with
  | none => exact .refl desk
  | some waiter => exact (desk.without_alike name).trans ((desk.without name).putBack_alike _ _)

theorem look_alike (desk : Desk) (name : String) : desk.Alike (desk.look name).desk := by
  unfold look
  rw [take?_eq]
  cases (desk.named name).head? with
  | none => exact .refl desk
  | some waiter => exact (desk.without_alike name).trans ((desk.without name).putBack_alike _ _)

/-- A wait changes nothing at a desk but itself and the number of reads. -/
theorem apply_alike_of_isWait {event : Event} (h : event.isWait = true) (desk : Desk) :
    desk.Alike (desk.apply event).desk := by
  cases event with
  | wait => exact desk.read_alike _
  | wake name =>
    cases hhead : (desk.named name).head? with
    | none =>
      simp only [apply, take?_eq, hhead]
      exact .refl desk
    | some waiter =>
      rw [apply_wake hhead]
      exact (desk.without_alike name).trans ((desk.without name).read_alike _)
  | abandon name =>
    cases hhead : (desk.named name).head? with
    | none =>
      simp only [apply, take?_eq, hhead]
      exact .refl desk
    | some waiter =>
      rw [apply_abandon hhead]
      exact (desk.without_alike name).trans ((desk.without name).putBack_alike _ _)
  | drop name =>
    simp only [apply, take?_eq]
    cases (desk.named name).head? with
    | none => exact .refl desk
    | some waiter => exact desk.without_alike name
  | table | submit | cancel | cancelIfPending | status | fetch | shutDown => cases h

theorem apply_coordinator {event : Event} (h : event ≠ .shutDown) (desk : Desk) :
    (desk.apply event).desk.coordinator = desk.coordinator := by
  cases hwait : event.isWait with
  | true => exact (apply_alike_of_isWait hwait desk).coordinator.symm
  | false =>
    cases event with
    | table | submit | cancel | cancelIfPending | status | fetch => rfl
    | shutDown => exact absurd rfl h
    | wait | wake | abandon | drop => cases hwait

end Desk

end JobDesk
