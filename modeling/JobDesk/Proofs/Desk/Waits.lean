import JobDesk.Desk.Basic
import JobDesk.Proofs.Coordinator.WaitRun

/-!
# Waits at a desk — each of them is a wait like any other

At a desk a wait is one of many, and what happens to the others happens in between.
`Desk.reports_wait` says that what the desk reports of it is the end of the wait that is led by its
own events alone, with the answers that the table gave to its reads.
-/

namespace JobDesk

open Coordinator (Signal Signals WaitEvent WaitRun WaitState waitRun)

/-! ## 1. Names -/

def reportOf (name : String) (id : Int64) : WaitState → List EndedWait
  | .ended result => [⟨name, id, result⟩]
  | _ => []

def reportsOn (name : String) (ended : List EndedWait) : List EndedWait :=
  ended.filter (·.name == name)

def Event.Spares (name : String) : Event → Prop
  | .wait other _ _ _ => other ≠ name
  | .drop other => other ≠ name
  | _ => True

def Event.wakes (name : String) : Event → Bool
  | .wake other => other == name
  | _ => false

/-- What an event is to a wait under a name; the table answers a read at once. -/
def Event.toWait (name : String) (hasToken : Bool) : Event → List WaitEvent
  | .wake other => if other = name then [.elapsed, .answered] else []
  | .abandon other => if other = name ∧ hasToken = true then [.abandoned, .looked] else []
  | .shutDown => [.stopped, .looked]
  | _ => []

namespace Desk

def named (desk : Desk) (name : String) : List Waiter :=
  desk.waiters.filter (·.name == name)

def wakeAnswers (name : String) (id : Int64) : Desk → List Event → List StatusAnswer
  | _, [] => []
  | desk, event :: rest =>
    let later := wakeAnswers name id (desk.apply event).desk rest
    if event.wakes name then (JobStore.fetchStatus desk.store id).1 :: later else later

variable {desk : Desk} {waiter : Waiter} {name other : String}

theorem putBack_spec (desk : Desk) (waiter : Waiter) (notices : List Coordinator.Notice) :
    (desk.putBack waiter notices).ended = reportOf waiter.name waiter.id waiter.state ∧
      (desk.putBack waiter notices).desk.coordinator = desk.coordinator ∧
      (desk.putBack waiter notices).desk.waiters = desk.waiters ++
        match waiter.state with
        | .ended _ => []
        | _ => [waiter] := by
  unfold putBack
  cases waiter.state with
  | ended result => exact ⟨rfl, rfl, (List.append_nil _).symm⟩
  | reading lastSeen | sleeping lastSeen => exact ⟨rfl, rfl, rfl⟩

theorem putBack_other (h : waiter.name ≠ name) (notices : List Coordinator.Notice) :
    (desk.putBack waiter notices).desk.named name = desk.named name ∧
      reportsOn name (desk.putBack waiter notices).ended = [] := by
  obtain ⟨hended, -, hwaiters⟩ := putBack_spec desk waiter notices
  rw [named, hwaiters, hended, List.filter_append, reportsOn, named]
  cases waiter.state <;> simp [reportOf, h]

theorem putBack_self (h : waiter.name = name) (hnone : desk.named name = [])
    (notices : List Coordinator.Notice) :
    reportsOn name (desk.putBack waiter notices).ended = reportOf name waiter.id waiter.state ∧
      (desk.putBack waiter notices).desk.named name =
        match waiter.state with
        | .ended _ => []
        | _ => [waiter] := by
  obtain ⟨hended, -, hwaiters⟩ := putBack_spec desk waiter notices
  rw [named] at hnone
  rw [named, hwaiters, hended, List.filter_append, reportsOn, hnone, h]
  cases waiter.state <;> simp [reportOf, h]

def without (desk : Desk) (name : String) : Desk :=
  { desk with waiters := desk.waiters.filter (·.name != name) }

theorem take?_eq (desk : Desk) (name : String) :
    desk.take? name = (desk.named name).head?.map fun waiter => (waiter, desk.without name) := by
  rw [take?, named, List.head?_filter]
  rfl

theorem named_without (h : other ≠ name) : (desk.without other).named name = desk.named name := by
  simp only [without, named, List.filter_filter]
  refine List.filter_congr fun waiter _ => ?_
  by_cases hname : waiter.name = name
  · simp [hname, h.symm]
  · simp [hname]

theorem named_without_self (desk : Desk) (name : String) : (desk.without name).named name = [] := by
  simp only [without, named, List.filter_filter, List.filter_eq_nil_iff]
  intro waiter _
  simp

theorem name_of_head? (h : (desk.named name).head? = some waiter) : waiter.name = name := by
  simpa using (List.mem_filter.mp (List.mem_of_mem_head? h)).2

/-! ## 2. Events of others -/

/-- A read changes the table and the state of the wait that reads, and brings it back. -/
theorem read_eq (desk : Desk) (waiter : Waiter) :
    ∃ store notices, desk.read waiter = ({ desk with store := store } : Desk).putBack
      { waiter with
        state := (waiter.state.read desk.coordinator.settings.waiting waiter.id
          (desk.signals waiter) desk.store).1 } notices :=
  ⟨_, _, rfl⟩

theorem read_other (h : waiter.name ≠ name) :
    (desk.read waiter).desk.named name = desk.named name ∧
      reportsOn name (desk.read waiter).ended = [] ∧
      (desk.read waiter).desk.coordinator = desk.coordinator := by
  obtain ⟨store, notices, hread⟩ := read_eq desk waiter
  rw [hread]
  generalize (waiter.state.read desk.coordinator.settings.waiting waiter.id
    (desk.signals waiter) desk.store).1 = state
  obtain ⟨hnamed, hreports⟩ := @putBack_other { desk with store := store }
    { waiter with state := state } name h notices
  exact ⟨hnamed, hreports, (putBack_spec _ _ _).2.1⟩

theorem apply_wake (h : (desk.named name).head? = some waiter) :
    desk.apply (.wake name) = (desk.without name).read
      { waiter with state := waiter.state.onTimer waiter.id (desk.signals waiter) } := by
  simp only [apply, take?_eq, h]
  rfl

theorem apply_abandon (h : (desk.named name).head? = some waiter) :
    desk.apply (.abandon name) =
      (desk.without name).putBack (desk.signal { waiter with token := waiter.hasToken }) [] := by
  simp only [apply, take?_eq, h]
  rfl

theorem apply_other {event : Event} (hspares : event.Spares name) (hwake : event ≠ .wake name)
    (habandon : event ≠ .abandon name) (hshutDown : event ≠ .shutDown) :
    (desk.apply event).desk.named name = desk.named name ∧
      reportsOn name (desk.apply event).ended = [] ∧
      (desk.apply event).desk.coordinator = desk.coordinator := by
  -- Only a wait under the other name is taken out of the line and put back.
  cases event with
  | table | submit | cancel | cancelIfPending | status | fetch => exact ⟨rfl, rfl, rfl⟩
  | shutDown => exact absurd rfl hshutDown
  | wait => exact read_other hspares
  | wake other =>
    have hother : other ≠ name := fun heq => hwake (by rw [heq])
    cases hhead : (desk.named other).head? with
    | none =>
      simp only [apply, take?_eq, hhead]
      exact ⟨rfl, rfl, rfl⟩
    | some waiter =>
      rw [apply_wake hhead]
      generalize waiter.state.onTimer _ _ = state
      obtain ⟨hnamed, hreports, hcoordinator⟩ := @read_other (desk.without other)
        { waiter with state := state } name ((name_of_head? hhead).symm ▸ hother)
      exact ⟨hnamed.trans (named_without hother), hreports, hcoordinator⟩
  | abandon other =>
    have hother : other ≠ name := fun heq => habandon (by rw [heq])
    cases hhead : (desk.named other).head? with
    | none =>
      simp only [apply, take?_eq, hhead]
      exact ⟨rfl, rfl, rfl⟩
    | some waiter =>
      rw [apply_abandon hhead]
      obtain ⟨hnamed, hreports⟩ := @putBack_other (desk.without other)
        (desk.signal { waiter with token := waiter.hasToken }) name
        ((name_of_head? hhead).symm ▸ hother) []
      exact ⟨hnamed.trans (named_without hother), hreports, (putBack_spec _ _ _).2.1⟩
  | drop other =>
    simp only [apply, take?_eq]
    cases (desk.named other).head? with
    | none => exact ⟨rfl, rfl, rfl⟩
    | some waiter => exact ⟨named_without hspares, rfl, rfl⟩

def stopped (waiter : Waiter) : Waiter :=
  { waiter with state := waiter.state.onSignal waiter.id ⟨waiter.token, true, waiter.pick⟩ }

theorem ended?_name {waiter : Waiter} {ended : EndedWait} (h : ended? waiter = some ended) :
    ended.name = waiter.name := by
  unfold ended? at h
  split at h
  · rw [← Option.some.inj h]
  · cases h

theorem reportsOn_stopped (waiters : List Waiter) (name : String) :
    reportsOn name ((waiters.map stopped).filterMap ended?) =
      ((waiters.filter (·.name == name)).map stopped).filterMap ended? := by
  induction waiters with
  | nil => rfl
  | cons waiter rest ih =>
    rw [List.map_cons]
    cases hended : ended? (stopped waiter) with
    | none =>
      rw [List.filterMap_cons_none hended, ih]
      by_cases hname : waiter.name = name
      · rw [List.filter_cons_of_pos (by simp [hname]), List.map_cons,
          List.filterMap_cons_none hended]
      · rw [List.filter_cons_of_neg (by simp [hname])]
    | some ended =>
      have hsame : ended.name = waiter.name := @ended?_name (stopped waiter) ended hended
      rw [List.filterMap_cons_some hended]
      by_cases hname : waiter.name = name
      · rw [List.filter_cons_of_pos (by simp [hname]), List.map_cons,
          List.filterMap_cons_some hended, ← ih]
        exact List.filter_cons_of_pos (by simp [hsame, hname])
      · rw [List.filter_cons_of_neg (by simp [hname]), ← ih]
        exact List.filter_cons_of_neg (by simp [hsame, hname])

theorem shutDown_again (h : desk.coordinator.isShutDown = true) :
    desk.apply .shutDown = { answer := .done, desk := desk } :=
  if_pos h

/-- The first shutdown sends its signal to every wait, and reports those that it ends. -/
theorem shutDown_spec (hrunning : desk.coordinator.isShutDown = false) (name : String) :
    (desk.apply .shutDown).desk.named name =
        ((desk.named name).map stopped).filter (fun waiter => (ended? waiter).isNone) ∧
      reportsOn name (desk.apply .shutDown).ended =
        ((desk.named name).map stopped).filterMap ended? := by
  have hfirst : ¬ desk.coordinator.isShutDown = true := by simp [hrunning]
  have hcoordinator : desk.coordinator.shutDown.1.isShutDown = true := by
    rw [Coordinator.shutDown, if_neg hfirst]
  -- The coordinator is shut down before the waits are told, so all of them see both signals.
  have hsignal : ({ desk with coordinator := desk.coordinator.shutDown.1 } : Desk).signal =
      stopped := by
    funext waiter
    simp only [signal, signals, hcoordinator]
    rfl
  simp only [apply, shutDown, if_neg hfirst, hsignal]
  constructor
  · show ((desk.waiters.map stopped).filter _).filter _ = _
    rw [List.filter_filter, List.filter_map, named, List.filter_map, List.filter_filter]
    congr 1
    refine List.filter_congr fun waiter _ => ?_
    exact Bool.and_comm _ _
  · exact reportsOn_stopped desk.waiters name

theorem apply_none {event : Event} (hspares : event.Spares name) (hnone : desk.named name = []) :
    (desk.apply event).desk.named name = [] ∧ reportsOn name (desk.apply event).ended = [] := by
  by_cases hwake : event = .wake name
  · subst hwake
    simp only [apply, take?_eq, hnone]
    exact ⟨hnone, rfl⟩
  by_cases habandon : event = .abandon name
  · subst habandon
    simp only [apply, take?_eq, hnone]
    exact ⟨hnone, rfl⟩
  by_cases hshutDown : event = .shutDown
  · subst hshutDown
    cases hshut : desk.coordinator.isShutDown with
    | true =>
      rw [shutDown_again hshut]
      exact ⟨hnone, rfl⟩
    | false =>
      obtain ⟨hnamed, hreports⟩ := shutDown_spec hshut name
      rw [hnone] at hnamed hreports
      exact ⟨hnamed, hreports⟩
  · obtain ⟨hnamed, hreports, -⟩ := @apply_other desk name event hspares hwake habandon hshutDown
    exact ⟨hnamed.trans hnone, hreports⟩

/-! ## 3. A wait and its run -/

variable {settings : CoordinatorSettings} {id : Int64} {answers : Nat → StatusAnswer}
variable {hasToken : Bool} {pick : Signal} {run : WaitRun} {lastSeen : Option Int16}

structure Asleep (desk : Desk) (settings : CoordinatorSettings) (name : String) (id : Int64)
    (hasToken : Bool) (pick : Signal) (run : WaitRun) (lastSeen : Option Int16) : Prop where
  named : desk.named name = [⟨name, id, false, hasToken, pick, .sleeping lastSeen⟩]
  state : run.state = .sleeping lastSeen
  signals : run.signals = ⟨false, false, pick⟩
  isRunning : desk.coordinator.isShutDown = false
  isSet : desk.coordinator.settings = settings

/-- A wait stands at a desk as it does in its run: it sleeps in both or has ended in both. -/
inductive Mirrors (desk : Desk) (settings : CoordinatorSettings) (name : String) (id : Int64)
    (hasToken : Bool) (pick : Signal) (run : WaitRun) : Prop
  | asleep (lastSeen : Option Int16) (h : Asleep desk settings name id hasToken pick run lastSeen)
  | gone (result : Except JobError Unit) (hnone : desk.named name = [])
      (hended : run.state = .ended result)

theorem takeAnswer_quiet (waiting : WaitingSet) (id : Int64) (pick : Signal)
    (lastSeen : Option Int16) (answer : StatusAnswer) :
    (∃ seen, (Coordinator.takeAnswer waiting id ⟨false, false, pick⟩ lastSeen answer).1 =
      .sleeping seen) ∨
    ∃ result, (Coordinator.takeAnswer waiting id ⟨false, false, pick⟩ lastSeen answer).1 =
      .ended result := by
  cases hgoes : Coordinator.goesOn waiting answer with
  | true =>
    obtain ⟨code, hsleep⟩ := Coordinator.takeAnswer_of_goesOn hgoes
    exact .inl ⟨some code, hsleep⟩
  | false => exact .inr ⟨_, Coordinator.takeAnswer_of_not_goesOn hgoes⟩

theorem read_answered (hnone : desk.named name = [])
    (hrunning : desk.coordinator.isShutDown = false)
    (hsettings : desk.coordinator.settings = settings)
    (hstate : run.state = .reading lastSeen) (hsignals : run.signals = ⟨false, false, pick⟩)
    (hanswer : answers run.answered = (JobStore.fetchStatus desk.store id).1) :
    let step := desk.read ⟨name, id, false, hasToken, pick, .reading lastSeen⟩
    let next := run.step settings id answers .answered
    Mirrors step.desk settings name id hasToken pick next ∧
      reportsOn name step.ended = reportOf name id next.state ∧
      next.answered = run.answered + 1 := by
  intro step next
  obtain ⟨store, notices, hread⟩ :=
    read_eq desk ⟨name, id, false, hasToken, pick, .reading lastSeen⟩
  have hquiet : desk.signals ⟨name, id, false, hasToken, pick, .reading lastSeen⟩ =
      ⟨false, false, pick⟩ := by
    rw [Desk.signals, hrunning]
  have hnext : next.state = (Coordinator.takeAnswer settings.waiting id ⟨false, false, pick⟩
      lastSeen (JobStore.fetchStatus desk.store id).1).1 := by
    show (run.step settings id answers .answered).state = _
    simp only [WaitRun.step, hstate, hsignals, hanswer, WaitRun.enter]
  have hanswered : next.answered = run.answered + 1 :=
    (WaitRun.step_answered settings id answers hstate).1
  have hnextSignals : next.signals = ⟨false, false, pick⟩ :=
    (WaitRun.signals_step rfl).trans hsignals
  rw [hquiet, hsettings] at hread
  change desk.read _ = putBack _ ⟨name, id, false, hasToken, pick, (Coordinator.takeAnswer
    settings.waiting id ⟨false, false, pick⟩ lastSeen (JobStore.fetchStatus desk.store id).1).1⟩
    notices at hread
  rw [← hnext] at hread
  obtain ⟨hreports, hnamed⟩ := @putBack_self { desk with store := store }
    ⟨name, id, false, hasToken, pick, next.state⟩ name rfl hnone notices
  have hcoordinator := (putBack_spec { desk with store := store }
    ⟨name, id, false, hasToken, pick, next.state⟩ notices).2.1
  rw [← hread] at hreports hnamed hcoordinator
  refine ⟨?_, hreports, hanswered⟩
  -- The state is the same in both, so the wait is back at the desk if and only if it goes on.
  rcases takeAnswer_quiet settings.waiting id pick lastSeen
      (JobStore.fetchStatus desk.store id).1 with
    ⟨seen, hsleeping⟩ | ⟨result, hended⟩
  · rw [hsleeping] at hnext
    rw [hnext] at hnamed
    exact .asleep seen ⟨hnamed, hnext, hnextSignals, hcoordinator ▸ hrunning,
      hcoordinator ▸ hsettings⟩
  · rw [hended] at hnext
    rw [hnext] at hnamed
    exact .gone result hnamed hnext

theorem Asleep.wake (h : Asleep desk settings name id hasToken pick run lastSeen)
    (hanswer : answers run.answered = (JobStore.fetchStatus desk.store id).1) :
    let step := desk.apply (.wake name)
    let next := run.after settings id answers [.elapsed, .answered]
    Mirrors step.desk settings name id hasToken pick next ∧
      reportsOn name step.ended = reportOf name id next.state ∧
      next.answered = run.answered + 1 := by
  have hquiet : desk.signals ⟨name, id, false, hasToken, pick, .sleeping lastSeen⟩ =
      ⟨false, false, pick⟩ := by
    rw [Desk.signals, h.isRunning]
  have helapsed := WaitRun.step_elapsed settings id answers h.state
  have hsignals : (run.step settings id answers .elapsed).signals = ⟨false, false, pick⟩ :=
    (WaitRun.signals_step rfl).trans h.signals
  rw [h.signals, Coordinator.beginRead_of_quiet rfl] at helapsed
  have hstate : (run.step settings id answers .elapsed).state = .reading lastSeen := by
    rw [helapsed, WaitRun.enter]
  have hanswered : (run.step settings id answers .elapsed).answered = run.answered := by
    rw [helapsed, WaitRun.enter]
  rw [apply_wake (by rw [h.named]; rfl), hquiet]
  rw [← hanswered] at hanswer ⊢
  exact @read_answered (desk.without name) name settings id answers hasToken pick _ lastSeen
    (named_without_self desk name) h.isRunning h.isSet hstate hsignals hanswer

/-- The token ends a sleeping wait; without one nothing happens to it. -/
theorem Asleep.abandon (h : Asleep desk settings name id hasToken pick run lastSeen) :
    let step := desk.apply (.abandon name)
    let next := run.after settings id answers (if hasToken then [.abandoned, .looked] else [])
    Mirrors step.desk settings name id hasToken pick next ∧
      reportsOn name step.ended = reportOf name id next.state ∧ next.answered = run.answered := by
  have hsignal : desk.signal ⟨name, id, hasToken, hasToken, pick, .sleeping lastSeen⟩ =
      ⟨name, id, hasToken, hasToken, pick,
        Coordinator.beginSleep id ⟨hasToken, false, pick⟩ lastSeen⟩ := by
    rw [Desk.signal, Desk.signals, h.isRunning]
    rfl
  rw [apply_abandon (by rw [h.named]; rfl), hsignal]
  obtain ⟨hreports, hnamed⟩ := @putBack_self (desk.without name)
    ⟨name, id, hasToken, hasToken, pick,
      Coordinator.beginSleep id ⟨hasToken, false, pick⟩ lastSeen⟩ name rfl
    (named_without_self desk name) []
  -- A wait without a token is put back as it was taken out.
  cases hasToken with
  | false =>
    refine ⟨.asleep lastSeen ⟨hnamed, h.state, h.signals, h.isRunning, h.isSet⟩, ?_, rfl⟩
    show _ = reportOf name id run.state
    rw [h.state]
    exact hreports
  | true =>
    have hnext : (run.after settings id answers [.abandoned, .looked]).state =
        .ended (.error (.abandoned id)) := by
      show WaitState.onSignal id { run.signals with token := true } run.state = _
      rw [h.state, h.signals]
      rfl
    refine ⟨.gone _ hnamed hnext, ?_, rfl⟩
    show _ = reportOf name id (run.after settings id answers [.abandoned, .looked]).state
    rw [hnext]
    exact hreports

theorem Asleep.shutDown (h : Asleep desk settings name id hasToken pick run lastSeen) :
    let step := desk.apply .shutDown
    let next := run.after settings id answers [.stopped, .looked]
    Mirrors step.desk settings name id hasToken pick next ∧
      reportsOn name step.ended = reportOf name id next.state := by
  intro step next
  have hnext : next.state = .ended (.error .shutDown) := by
    show WaitState.onSignal id { run.signals with shutDown := true } run.state = _
    rw [h.state, h.signals]
    rfl
  obtain ⟨hnamed, hreports⟩ := shutDown_spec h.isRunning name
  rw [h.named] at hnamed hreports
  rw [hnext]
  exact ⟨.gone _ hnamed hnext, hreports⟩

theorem Asleep.passed {event : Event} (h : Asleep desk settings name id hasToken pick run lastSeen)
    (hspares : event.Spares name) (hwake : event ≠ .wake name) (habandon : event ≠ .abandon name)
    (hshutDown : event ≠ .shutDown) :
    Mirrors (desk.apply event).desk settings name id hasToken pick run ∧
      reportsOn name (desk.apply event).ended = reportOf name id run.state := by
  obtain ⟨hnamed, hreports, hcoordinator⟩ := @apply_other desk name event hspares hwake habandon
    hshutDown
  refine ⟨.asleep lastSeen ⟨hnamed.trans h.named, h.state, h.signals, ?_, ?_⟩, ?_⟩
  · rw [hcoordinator, h.isRunning]
  · rw [hcoordinator, h.isSet]
  · rw [h.state]
    exact hreports

/-- Any event that neither begins nor drops a wait does the same to it at the desk and in its run.
-/
theorem Asleep.apply {event : Event} (h : Asleep desk settings name id hasToken pick run lastSeen)
    (hspares : event.Spares name)
    (hanswer : event.wakes name = true →
      answers run.answered = (JobStore.fetchStatus desk.store id).1) :
    let step := desk.apply event
    let next := run.after settings id answers (event.toWait name hasToken)
    Mirrors step.desk settings name id hasToken pick next ∧
      reportsOn name step.ended = reportOf name id next.state ∧
      next.answered = run.answered + if event.wakes name then 1 else 0 := by
  by_cases hwake : event = .wake name
  · subst hwake
    simp only [Event.wakes, Event.toWait, if_true, beq_self_eq_true] at hanswer ⊢
    exact h.wake (hanswer trivial)
  by_cases habandon : event = .abandon name
  · subst habandon
    simp only [Event.wakes, Event.toWait, true_and]
    exact h.abandon
  by_cases hshutDown : event = .shutDown
  · subst hshutDown
    obtain ⟨hmirrors, hreports⟩ := @Asleep.shutDown _ name settings id answers _ _ run lastSeen h
    exact ⟨hmirrors, hreports, rfl⟩
  obtain ⟨hmirrors, hreports⟩ := h.passed hspares hwake habandon hshutDown
  cases event with
  | wake other =>
    have hother : other ≠ name := fun heq => hwake (by rw [heq])
    simp only [Event.wakes, Event.toWait, if_neg hother, beq_eq_false_iff_ne.mpr hother]
    exact ⟨hmirrors, hreports, rfl⟩
  | abandon other =>
    have hother : other ≠ name := fun heq => habandon (by rw [heq])
    simp only [Event.wakes, Event.toWait, if_neg fun both => hother (And.left both)]
    exact ⟨hmirrors, hreports, rfl⟩
  | shutDown => exact absurd rfl hshutDown
  | table | submit | cancel | cancelIfPending | status | fetch | wait | drop =>
    exact ⟨hmirrors, hreports, rfl⟩

/-! ## 4. Whole waits -/

def reportsIn (name : String) (steps : List Step) : List EndedWait :=
  steps.flatMap fun step => reportsOn name step.ended

theorem reportsIn_of_none {events : List Event} (hspares : ∀ event ∈ events, event.Spares name)
    (hnone : desk.named name = []) : reportsIn name (desk.run events).1 = [] := by
  induction events generalizing desk with
  | nil => rfl
  | cons event rest ih =>
    obtain ⟨hnamed, hreports⟩ := apply_none (hspares event List.mem_cons_self) hnone
    have hrest := ih (fun later hlater => hspares later (List.mem_cons_of_mem event hlater)) hnamed
    show reportsOn name (desk.apply event).ended ++ _ = []
    rw [hreports, List.nil_append]
    exact hrest

/-- What is reported of a sleeping wait is the end that its run comes to. -/
theorem Asleep.reportsIn {events : List Event} (hspares : ∀ event ∈ events, event.Spares name)
    (h : Asleep desk settings name id hasToken pick run lastSeen)
    (hanswers : ∀ i (hi : i < (wakeAnswers name id desk events).length),
      answers (run.answered + i) = (wakeAnswers name id desk events)[i]) :
    reportsIn name (desk.run events).1 = reportOf name id
      (run.after settings id answers (events.flatMap (Event.toWait name hasToken))).state := by
  induction events generalizing desk run lastSeen with
  | nil =>
    show [] = reportOf name id run.state
    rw [h.state]
    rfl
  | cons event rest ih =>
    -- Only an event that wakes the wait uses up the first of the answers.
    have hfirst : event.wakes name = true →
        answers run.answered = (JobStore.fetchStatus desk.store id).1 := by
      intro hwakes
      have hhead := hanswers 0
      simp only [wakeAnswers, hwakes, if_true] at hhead
      exact hhead (Nat.succ_pos _)
    obtain ⟨hmirrors, hreports, hanswered⟩ := @Asleep.apply desk name settings id answers hasToken
      pick run lastSeen event h (hspares event List.mem_cons_self) hfirst
    have hrest : ∀ later ∈ rest, later.Spares name := fun later hlater =>
      hspares later (List.mem_cons_of_mem event hlater)
    have hlater : ∀ i (hi : i < (wakeAnswers name id (desk.apply event).desk rest).length),
        answers ((run.after settings id answers (event.toWait name hasToken)).answered + i) =
          (wakeAnswers name id (desk.apply event).desk rest)[i] := by
      intro i hi
      cases hwakes : event.wakes name with
      | true =>
        have hnext := hanswers (i + 1)
        simp only [wakeAnswers, hwakes, if_true, List.length_cons, List.getElem_cons_succ] at hnext
        rw [hanswered, hwakes, if_pos rfl, Nat.add_assoc, Nat.add_comm 1 i]
        exact hnext (Nat.succ_lt_succ hi)
      | false =>
        have hnext := hanswers i
        simp only [wakeAnswers, hwakes] at hnext
        rw [hanswered, hwakes]
        exact hnext hi
    show reportsOn name (desk.apply event).ended ++ reportsIn name _ = _
    rw [List.flatMap_cons, WaitRun.after_append, hreports]
    -- A wait that still sleeps has not been reported; one that has ended is not heard of again.
    cases hmirrors with
    | asleep seen hasleep =>
      rw [hasleep.state]
      exact ih hrest hasleep hlater
    | gone result hnone hended =>
      rw [reportsIn_of_none hrest hnone, (WaitRun.after_ended hended _).1, hended]
      exact List.append_nil _

/-- What a desk reports of a wait is the end that the wait comes to by its own events, when its
reads get the answers that the table gave at those times. -/
theorem reports_wait (desk : Desk) (name : String) (id : Int64) (token : Option Bool)
    (pick : Signal) (events : List Event) (answers : Nat → StatusAnswer)
    (hfree : desk.named name = []) (hspares : ∀ event ∈ events, event.Spares name)
    (hfirst : answers 0 = (JobStore.fetchStatus desk.store id).1)
    (hlater : let later := wakeAnswers name id (desk.apply (.wait name id token pick)).desk events
      ∀ i (hi : i < later.length), answers (i + 1) = later[i]) :
    reportsIn name (desk.run (.wait name id token pick :: events)).1 = reportOf name id
      (waitRun desk.coordinator.settings id answers
        ⟨token.getD false, desk.coordinator.isShutDown, pick⟩
        (.answered :: events.flatMap (Event.toWait name token.isSome))).state := by
  show reportsOn name (desk.apply (.wait name id token pick)).ended ++ reportsIn name _ = _
  rw [waitRun]
  cases hfired :
      Coordinator.Signals.fired ⟨token.getD false, desk.coordinator.isShutDown, pick⟩ with
  | true =>
    -- The wait is over before its first read.
    have hbegin := @Coordinator.beginRead_of_fired id _ none hfired
    have hwait : desk.apply (.wait name id token pick) = desk.putBack
        ⟨name, id, token.getD false, token.isSome, pick, .ended (.error
          (Coordinator.Signals.causeAtRead id
            ⟨token.getD false, desk.coordinator.isShutDown, pick⟩))⟩ [] := by
      simp only [Desk.apply, hbegin]
      rfl
    obtain ⟨hreports, hnamed⟩ := @putBack_self desk ⟨name, id, token.getD false, token.isSome, pick,
      .ended (.error (Coordinator.Signals.causeAtRead id
        ⟨token.getD false, desk.coordinator.isShutDown, pick⟩))⟩ name rfl hfree []
    rw [← hwait] at hreports hnamed
    rw [hreports, reportsIn_of_none hspares hnamed, (WaitRun.after_ended hbegin _).1]
    rfl
  | false =>
    obtain ⟨htoken, hrunning⟩ := Bool.or_eq_false_iff.mp hfired
    simp only at htoken hrunning
    have hbegin := @Coordinator.beginRead_of_quiet id _ none hfired
    rw [htoken, hrunning] at hbegin ⊢
    have hwait : desk.apply (.wait name id token pick) =
        desk.read ⟨name, id, false, token.isSome, pick, .reading none⟩ := by
      simp only [Desk.apply, htoken, hrunning, hbegin]
    obtain ⟨hmirrors, hreports, hanswered⟩ := @read_answered desk name
      desk.coordinator.settings id answers token.isSome pick
      (WaitRun.start desk.coordinator.settings id ⟨false, false, pick⟩) none hfree hrunning rfl
      hbegin rfl hfirst
    rw [← hwait] at hmirrors hreports
    rw [hreports]
    show _ = reportOf name id (WaitRun.after _ _ _ (WaitRun.step _ _ _ _ .answered) _).state
    cases hmirrors with
    | asleep seen hasleep =>
      rw [hasleep.state]
      refine hasleep.reportsIn hspares fun i hi => ?_
      rw [hanswered, Nat.add_comm]
      exact hlater i hi
    | gone result hnone hended =>
      rw [reportsIn_of_none hspares hnone, (WaitRun.after_ended hended _).1, hended]
      exact List.append_nil _

end Desk

end JobDesk
