import JobDesk.Coordinator.Wait
import JobDesk.Proofs.Job.WaitingSet

/-!
# WaitRun — whole waits

A wait is led through its states by what happens to it: the answers to its reads, the ends of its
intervals, its token and the shutdown of the coordinator, and the times at which it looks at these
in its sleep.  `waitRun` is the wait after any sequence of such events, whatever the store answers.
Unless a signal fires it reads until the first answer that does not let it go on, and after a signal
it starts no read.  `waitFor_eq_waitRun` says that a wait on a store is such a wait.
-/

namespace JobDesk.Coordinator

/-! ## 1. Events and deeds -/

inductive WaitEvent where
  /-- The store answers the read that is in flight. -/
  | answered
  /-- The time to the next read has run out. -/
  | elapsed
  /-- The token of the wait fires. -/
  | abandoned
  /-- The coordinator stops. -/
  | stopped
  /-- The wait, if it sleeps, looks at what has fired. -/
  | looked
  deriving DecidableEq

inductive WaitDeed where
  | read
  | sleep (interval : Span)
  deriving DecidableEq

/-- A wait with its past: the signals that have fired, the number of reads that were answered, and
what it has done and reported, in this order. -/
structure WaitRun where
  state : WaitState
  signals : Signals
  answered : Nat := 0
  deeds : List WaitDeed := []
  notices : List Notice := []

def WaitState.deed? (interval : Span) : WaitState → Option WaitDeed
  | .reading _ => some .read
  | .sleeping _ => some (.sleep interval)
  | .ended _ => none

namespace WaitRun

def enter (interval : Span) (run : WaitRun) (state : WaitState) : WaitRun :=
  { run with state := state, deeds := run.deeds ++ (state.deed? interval).toList }

variable (settings : CoordinatorSettings) (id : Int64) (answers : Nat → StatusAnswer)

def start (signals : Signals) : WaitRun :=
  enter settings.pollInterval ⟨beginRead id signals none, signals, 0, [], []⟩
    (beginRead id signals none)

/-- What an event does to a wait whose reads get the given answers; what cannot happen in a state
does nothing. -/
def step (run : WaitRun) : WaitEvent → WaitRun
  | .answered =>
    match run.state with
    | .reading lastSeen =>
      let (state, notices) :=
        takeAnswer settings.waiting id run.signals lastSeen (answers run.answered)
      { run.enter settings.pollInterval state with
        answered := run.answered + 1
        notices := run.notices ++ notices }
    | _ => run
  | .elapsed =>
    match run.state with
    | .sleeping _ => run.enter settings.pollInterval (run.state.onTimer id run.signals)
    | _ => run
  | .abandoned => { run with signals := { run.signals with token := true } }
  | .stopped => { run with signals := { run.signals with shutDown := true } }
  | .looked => { run with state := run.state.onSignal id run.signals }

def after (run : WaitRun) (events : List WaitEvent) : WaitRun :=
  events.foldl (step settings id answers) run

end WaitRun

/-- A wait that has begun under the given signals, after some events. -/
def waitRun (settings : CoordinatorSettings) (id : Int64) (answers : Nat → StatusAnswer)
    (signals : Signals) (events : List WaitEvent) : WaitRun :=
  (WaitRun.start settings id signals).after settings id answers events

/-! ## 2. What decides -/

/-- Whether a wait goes on after an answer: it is a code in the waiting set. -/
def goesOn (waiting : WaitingSet) : StatusAnswer → Bool
  | .ok (some code) => decide (code ∈ waiting.codes.toList)
  | _ => false

def decided (id : Int64) : StatusAnswer → Except JobError Unit
  | .error error => .error (.statusQuery id error)
  | .ok none => .error (.notFound id)
  | .ok (some code) =>
    if code = 2 then .ok ()
    else if code = 5 then .error (.cancelled id)
    else .error (.unexpectedStatus id code)

namespace Signals

def fired (signals : Signals) : Bool := signals.token || signals.shutDown

/-- Why a wait ends that comes to a read when a signal has fired; its own token counts first. -/
def causeAtRead (id : Int64) (signals : Signals) : JobError :=
  if signals.token then .abandoned id else .shutDown

/-- Why a wait ends that comes to its sleep, or looks up in it, when a signal has fired; of two
signals the picked one counts. -/
def causeAsleep (id : Int64) (signals : Signals) : JobError :=
  match signals.token, signals.shutDown with
  | true, true => signals.pick.cause id
  | true, false => .abandoned id
  | false, _ => .shutDown

/-- What is heard has fired, and whatever has fired may be what is heard. -/
theorem exists_heard?_iff (signals : Signals) (signal : Signal) :
    (∃ pick, ({ signals with pick := pick } : Signals).heard? = some signal) ↔
      match signal with
      | .token => signals.token = true
      | .shutDown => signals.shutDown = true := by
  obtain ⟨token, shutDown, pick⟩ := signals
  cases token <;> cases shutDown <;> cases signal <;> simp [heard?]

end Signals

namespace WaitEvent

def isSignal : WaitEvent → Bool
  | abandoned | stopped => true
  | answered | elapsed | looked => false

def isRousing : WaitEvent → Bool
  | elapsed | looked => true
  | answered | abandoned | stopped => false

end WaitEvent

theorem verdict_eq_decided (id : Int64) (code : Int16) :
    (verdict id code).1 = decided id (.ok (some code)) := by
  simp only [decided]
  by_cases hsucceeded : code = 2
  · subst hsucceeded
    rfl
  by_cases hcancelled : code = 5
  · subst hcancelled
    rfl
  rw [if_neg hsucceeded, if_neg hcancelled]
  -- A code that is known by a name is the code of that name, so the two names below have codes 2
  -- and 5.
  have hother : ∀ status, Status.ofCode? code = some status → code = status.code := by
    intro status h
    have := List.find?_some h
    exact (eq_of_beq this).symm
  unfold verdict
  split
  · rename_i h
    exact absurd (hother _ h) hsucceeded
  · rename_i h
    exact absurd (hother _ h) hcancelled
  · rfl

variable {settings : CoordinatorSettings} {id : Int64} {answers : Nat → StatusAnswer}
variable {waiting : WaitingSet} {signals : Signals} {lastSeen : Option Int16}

theorem beginRead_of_fired (h : signals.fired = true) :
    beginRead id signals lastSeen = .ended (.error (signals.causeAtRead id)) := by
  obtain ⟨token, shutDown, pick⟩ := signals
  cases token <;> cases shutDown <;> first | rfl | exact absurd h (by simp [Signals.fired])

theorem beginRead_of_quiet (h : signals.fired = false) :
    beginRead id signals lastSeen = .reading lastSeen := by
  obtain ⟨token, shutDown, pick⟩ := signals
  cases token <;> cases shutDown <;> first | rfl | exact absurd h (by simp [Signals.fired])

theorem beginSleep_of_fired (h : signals.fired = true) :
    beginSleep id signals lastSeen = .ended (.error (signals.causeAsleep id)) := by
  obtain ⟨token, shutDown, pick⟩ := signals
  cases token <;> cases shutDown <;> first | rfl | exact absurd h (by simp [Signals.fired])

theorem beginSleep_of_quiet (h : signals.fired = false) :
    beginSleep id signals lastSeen = .sleeping lastSeen := by
  obtain ⟨token, shutDown, pick⟩ := signals
  cases token <;> cases shutDown <;> first | rfl | exact absurd h (by simp [Signals.fired])

theorem takeAnswer_of_goesOn {answer : StatusAnswer} (h : goesOn waiting answer = true) :
    ∃ code, (takeAnswer waiting id signals lastSeen answer).1 =
      beginSleep id signals (some code) := by
  cases answer with
  | error error => exact absurd h (by simp [goesOn])
  | ok code? =>
    cases code? with
    | none => exact absurd h (by simp [goesOn])
    | some code =>
      have hcontains := (waiting.contains_iff code).mpr (of_decide_eq_true h)
      refine ⟨code, ?_⟩
      rw [takeAnswer]
      simp only
      rw [if_pos hcontains]

theorem takeAnswer_of_not_goesOn {answer : StatusAnswer} (h : goesOn waiting answer = false) :
    (takeAnswer waiting id signals lastSeen answer).1 = .ended (decided id answer) := by
  cases answer with
  | error error => rfl
  | ok code? =>
    cases code? with
    | none => rfl
    | some code =>
      have hcontains := mt (waiting.contains_iff code).mp (of_decide_eq_false h)
      rw [takeAnswer]
      simp only
      rw [if_neg hcontains, ← verdict_eq_decided]

/-! ## 3. Waits that no signal reaches -/

def alternating (interval : Span) (reads : Nat) : List WaitDeed :=
  (List.replicate reads .read).intersperse (.sleep interval)

theorem alternating_add_two (interval : Span) (reads : Nat) :
    alternating interval (reads + 2) =
      alternating interval (reads + 1) ++ [.sleep interval, .read] := by
  induction reads with
  | zero => rfl
  | succ reads ih =>
    exact congrArg (fun deeds => WaitDeed.read :: WaitDeed.sleep interval :: deeds) ih

namespace WaitRun

/-- How a wait stands that no signal has reached: each of its reads but the last was answered with a
code in the waiting set, with one sleep between any two reads, and it has ended if and only if the
last answer was none. -/
def Quiet (settings : CoordinatorSettings) (id : Int64) (answers : Nat → StatusAnswer)
    (run : WaitRun) : Prop :=
  match run.state with
  | .reading _ =>
    (∀ i < run.answered, goesOn settings.waiting (answers i) = true) ∧
      run.deeds = alternating settings.pollInterval (run.answered + 1)
  | .sleeping _ =>
    (∀ i < run.answered, goesOn settings.waiting (answers i) = true) ∧ 0 < run.answered ∧
      run.deeds =
        alternating settings.pollInterval run.answered ++ [.sleep settings.pollInterval]
  | .ended result =>
    ∃ k, run.answered = k + 1 ∧ (∀ i < k, goesOn settings.waiting (answers i) = true) ∧
      goesOn settings.waiting (answers k) = false ∧ result = decided id (answers k) ∧
      run.deeds = alternating settings.pollInterval (k + 1)

variable {run : WaitRun} {event : WaitEvent}

theorem signals_step (h : event.isSignal = false) :
    (step settings id answers run event).signals = run.signals := by
  cases event with
  | answered =>
    simp only [step]
    split <;> rfl
  | elapsed =>
    simp only [step]
    split <;> rfl
  | looked => rfl
  | abandoned | stopped => exact absurd h (by decide)

variable (settings id answers)

theorem step_answered {lastSeen : Option Int16} (hstate : run.state = .reading lastSeen) :
    let next := step settings id answers run .answered
    next.answered = run.answered + 1 ∧
      (goesOn settings.waiting (answers run.answered) = true → ∃ code,
        next.state = beginSleep id run.signals (some code)) ∧
      (goesOn settings.waiting (answers run.answered) = false →
        next.state = .ended (decided id (answers run.answered))) ∧
      next.deeds = run.deeds ++ (next.state.deed? settings.pollInterval).toList := by
  simp only [step, hstate]
  exact ⟨trivial, takeAnswer_of_goesOn, takeAnswer_of_not_goesOn, rfl⟩

theorem step_elapsed {lastSeen : Option Int16} (hstate : run.state = .sleeping lastSeen) :
    step settings id answers run .elapsed =
      run.enter settings.pollInterval (beginRead id run.signals lastSeen) := by
  simp only [step, hstate, WaitState.onTimer]

/-- A read in flight does not hear that an interval has ended. -/
theorem step_elapsed_of_reading {lastSeen : Option Int16} (hstate : run.state = .reading lastSeen) :
    step settings id answers run .elapsed = run := by
  simp only [step, hstate]

/-- A wait that looks at its signals and is left in its state is left as it is. -/
theorem step_looked (hstate : run.state.onSignal id run.signals = run.state) :
    step settings id answers run .looked = run := by
  rw [step, hstate]

theorem quiet_start (hsignals : signals.fired = false) :
    (start settings id signals).Quiet settings id answers := by
  rw [start, beginRead_of_quiet hsignals]
  exact ⟨fun i hi => absurd hi (Nat.not_lt_zero i), rfl⟩

variable {settings id answers}

theorem Quiet.step (h : run.Quiet settings id answers) (hsignals : run.signals.fired = false)
    (hevent : event.isSignal = false) :
    (step settings id answers run event).Quiet settings id answers := by
  cases hstate : run.state with
  | reading lastSeen =>
    cases event with
    | answered =>
      rw [Quiet, hstate] at h
      obtain ⟨hbefore, hdeeds⟩ := h
      obtain ⟨hanswered, hon, hend, hnext⟩ := step_answered settings id answers hstate
      cases hanswer : goesOn settings.waiting (answers run.answered) with
      | true =>
        obtain ⟨code, hsleep⟩ := hon hanswer
        rw [beginSleep_of_quiet hsignals] at hsleep
        rw [hsleep] at hnext
        rw [Quiet, hsleep]
        -- The answer joins those that let the wait go on, and one more sleep follows the reads.
        refine ⟨fun i hi => ?_, by omega, ?_⟩
        · rw [hanswered] at hi
          rcases Nat.lt_succ_iff_lt_or_eq.mp hi with hi | rfl
          · exact hbefore i hi
          · exact hanswer
        · rw [hnext, hdeeds, hanswered]
          rfl
      | false =>
        rw [hend hanswer] at hnext
        rw [Quiet, hend hanswer]
        refine ⟨run.answered, hanswered, hbefore, hanswer, rfl, ?_⟩
        rw [hnext, hdeeds]
        exact List.append_nil _
    | elapsed => rwa [step_elapsed_of_reading settings id answers hstate]
    | looked => rwa [step_looked settings id answers (by simp [hstate, WaitState.onSignal])]
    | abandoned | stopped => exact absurd hevent (by decide)
  | sleeping lastSeen =>
    cases event with
    | answered => simpa only [WaitRun.step, hstate] using h
    | looked =>
      -- A wait that looks up and finds nothing sleeps on.
      rwa [step_looked settings id answers (by
        rw [hstate, WaitState.onSignal, beginSleep_of_quiet hsignals])]
    | elapsed =>
      rw [Quiet, hstate] at h
      obtain ⟨hbefore, hpos, hdeeds⟩ := h
      rw [step_elapsed settings id answers hstate, beginRead_of_quiet hsignals]
      refine ⟨hbefore, ?_⟩
      obtain ⟨n, hn⟩ := Nat.exists_eq_add_of_le' hpos
      simp only [enter, hdeeds, hn, WaitState.deed?, alternating_add_two]
      simp
    | abandoned | stopped => exact absurd hevent (by decide)
  | ended result =>
    cases event with
    | answered | elapsed => simpa only [WaitRun.step, hstate] using h
    | looked => rwa [step_looked settings id answers (by simp [hstate, WaitState.onSignal])]
    | abandoned | stopped => exact absurd hevent (by decide)

/-- A wait that no signal has reached, and no signal reaches later, stays quiet. -/
theorem Quiet.after (h : run.Quiet settings id answers) (hsignals : run.signals.fired = false)
    {events : List WaitEvent} (hevents : ∀ event ∈ events, event.isSignal = false) :
    (run.after settings id answers events).Quiet settings id answers ∧
      (run.after settings id answers events).signals.fired = false := by
  induction events generalizing run with
  | nil => exact ⟨h, hsignals⟩
  | cons event rest ih =>
    have hevent := hevents event List.mem_cons_self
    refine ih (h.step hsignals hevent) ?_ fun event hmem =>
      hevents event (List.mem_cons_of_mem _ hmem)
    rw [signals_step hevent]
    exact hsignals

/-- The end of an interval and the answer to a read, some times over. -/
def rounds (n : Nat) : List WaitEvent :=
  (List.replicate n [.elapsed, .answered]).flatten

/-- Each round brings a wait that no signal has reached on by one answer, until it has ended. -/
theorem answered_round (hsignals : run.signals.fired = false) :
    (∃ result, run.state = .ended result) ∨
      (run.after settings id answers [.elapsed, .answered]).answered = run.answered + 1 := by
  cases hstate : run.state with
  | reading lastSeen =>
    right
    change ((run.step settings id answers .elapsed).step settings id answers .answered).answered = _
    rw [step_elapsed_of_reading settings id answers hstate]
    exact (step_answered settings id answers hstate).1
  | sleeping lastSeen =>
    have hread := step_elapsed settings id answers hstate
    rw [beginRead_of_quiet hsignals] at hread
    have hreading : (run.step settings id answers .elapsed).state = .reading lastSeen := by
      rw [hread, enter]
    right
    change ((run.step settings id answers .elapsed).step settings id answers .answered).answered = _
    rw [(step_answered settings id answers hreading).1, hread]
    rfl
  | ended result => exact .inl ⟨result, rfl⟩

theorem step_ended {result : Except JobError Unit} (hstate : run.state = .ended result) :
    (run.step settings id answers event).state = .ended result ∧
      (run.step settings id answers event).deeds = run.deeds := by
  cases event <;> simp [step, hstate, WaitState.onSignal]

theorem after_ended {result : Except JobError Unit} (hstate : run.state = .ended result)
    (events : List WaitEvent) :
    (run.after settings id answers events).state = .ended result ∧
      (run.after settings id answers events).deeds = run.deeds := by
  induction events generalizing run with
  | nil => exact ⟨hstate, rfl⟩
  | cons event rest ih =>
    obtain ⟨hnext, hdeeds⟩ := @step_ended settings id answers run event result hstate
    obtain ⟨hstate, hafter⟩ := ih hnext
    exact ⟨hstate, hafter.trans hdeeds⟩

theorem after_append (run : WaitRun) (first second : List WaitEvent) :
    run.after settings id answers (first ++ second) =
      (run.after settings id answers first).after settings id answers second :=
  List.foldl_append

theorem signals_after {events : List WaitEvent} (h : ∀ event ∈ events, event.isSignal = false) :
    (run.after settings id answers events).signals = run.signals := by
  induction events generalizing run with
  | nil => rfl
  | cons event rest ih =>
    have hrest := @ih (run.step settings id answers event) fun event hmem =>
      h event (List.mem_cons_of_mem _ hmem)
    exact hrest.trans (signals_step (h event List.mem_cons_self))

theorem answered_rounds (hsignals : run.signals.fired = false) (n : Nat) :
    (∃ result, (run.after settings id answers (rounds n)).state = .ended result) ∨
      run.answered + n ≤ (run.after settings id answers (rounds n)).answered := by
  induction n generalizing run with
  | zero => exact .inr (Nat.le_refl _)
  | succ n ih =>
    have hsplit : rounds (n + 1) = [.elapsed, .answered] ++ rounds n := rfl
    have hround := @signals_after settings id answers run [.elapsed, .answered] (by decide)
    rw [hsplit, after_append]
    rcases @answered_round settings id answers run hsignals with ⟨result, hended⟩ | hanswered
    · have hended := (@after_ended settings id answers run result hended [.elapsed, .answered]).1
      exact .inl ⟨result, (after_ended hended _).1⟩
    · rcases @ih (run.after settings id answers [.elapsed, .answered]) (hround ▸ hsignals) with
        hended | hmore
      · exact .inl hended
      · exact .inr (by omega)

/-- A quiet wait comes to its end with the first answer that does not let it go on. -/
theorem Quiet.ends (h : run.Quiet settings id answers) (hsignals : run.signals.fired = false)
    {k : Nat} (hbefore : ∀ i < k, goesOn settings.waiting (answers i) = true)
    (hlast : goesOn settings.waiting (answers k) = false) :
    (run.after settings id answers (rounds (k + 1))).state = .ended (decided id (answers k)) := by
  have hevents : ∀ event ∈ rounds (k + 1), event.isSignal = false := by
    intro event hmem
    obtain ⟨round, hround, hevent⟩ := List.mem_flatten.mp hmem
    obtain rfl := List.eq_of_mem_replicate hround
    have hboth : ∀ event ∈ [WaitEvent.elapsed, .answered], event.isSignal = false := by
      decide
    exact hboth event hevent
  -- After as many rounds the wait has ended, or has gone on past answer `k`, which it cannot.
  have hmany := @answered_rounds settings id answers run hsignals (k + 1)
  have hquiet := (h.after hsignals hevents).1
  generalize run.after settings id answers (rounds (k + 1)) = final at hmany hquiet
  cases hstate : final.state with
  | reading lastSeen =>
    rw [Quiet, hstate] at hquiet
    rcases hmany with ⟨result, hended⟩ | hmany
    · rw [hstate] at hended
      cases hended
    · exact absurd ((hquiet.1 k (by omega)).symm.trans hlast) (by decide)
  | sleeping lastSeen =>
    rw [Quiet, hstate] at hquiet
    rcases hmany with ⟨result, hended⟩ | hmany
    · rw [hstate] at hended
      cases hended
    · exact absurd ((hquiet.1 k (by omega)).symm.trans hlast) (by decide)
  | ended result =>
    rw [Quiet, hstate] at hquiet
    obtain ⟨j, -, hearlier, hdecides, rfl, -⟩ := hquiet
    -- The wait ends with answer `j`, the first that does not let it go on, as answer `k` is.
    rcases Nat.lt_trichotomy j k with hlt | rfl | hgt
    · exact absurd ((hbefore j hlt).symm.trans hdecides) (by decide)
    · rfl
    · exact absurd ((hearlier k hgt).symm.trans hlast) (by decide)

/-! ## 4. Waits that a signal reaches -/

theorem fired_step_of_isSignal (h : event.isSignal = true) :
    (run.step settings id answers event).signals.fired = true := by
  cases event with
  | answered | elapsed | looked => exact absurd h (by decide)
  | abandoned => rfl
  | stopped => exact Bool.or_true _

theorem fired_step (h : run.signals.fired = true) :
    (run.step settings id answers event).signals.fired = true := by
  cases hevent : event.isSignal with
  | true => exact fired_step_of_isSignal hevent
  | false => rw [signals_step hevent, h]

theorem fired_after (h : run.signals.fired = true) (events : List WaitEvent) :
    (run.after settings id answers events).signals.fired = true := by
  induction events generalizing run with
  | nil => exact h
  | cons event rest ih => exact ih (fired_step h)

theorem signal_step (hevent : event.isSignal = true) :
    (run.step settings id answers event).state = run.state ∧
      (run.step settings id answers event).deeds = run.deeds ∧
      (run.step settings id answers event).answered = run.answered := by
  cases event with
  | answered | elapsed | looked => exact absurd hevent (by decide)
  | abandoned | stopped => exact ⟨rfl, rfl, rfl⟩

/-- Once a signal has fired, the answer to a read in flight ends the wait: with what it decides, or
with the signal. -/
theorem answered_of_fired {lastSeen : Option Int16} (hfired : run.signals.fired = true)
    (hstate : run.state = .reading lastSeen) :
    (run.step settings id answers .answered).state = .ended
      (if goesOn settings.waiting (answers run.answered) then
        .error (run.signals.causeAsleep id)
      else decided id (answers run.answered)) := by
  obtain ⟨-, hon, hend, -⟩ := step_answered settings id answers hstate
  cases hanswer : goesOn settings.waiting (answers run.answered) with
  | true =>
    obtain ⟨code, hsleep⟩ := hon hanswer
    rw [hsleep, beginSleep_of_fired hfired]
    rfl
  | false =>
    rw [hend hanswer]
    rfl

/-- Once a signal has fired, a wait that looks up in its sleep ends with it. -/
theorem looked_of_fired {lastSeen : Option Int16} (hfired : run.signals.fired = true)
    (hstate : run.state = .sleeping lastSeen) :
    (run.step settings id answers .looked).state =
      .ended (.error (run.signals.causeAsleep id)) := by
  rw [step, hstate]
  exact beginSleep_of_fired hfired

/-- Once a signal has fired, the end of the interval ends a wait that has not looked up before. -/
theorem elapsed_of_fired {lastSeen : Option Int16} (hfired : run.signals.fired = true)
    (hstate : run.state = .sleeping lastSeen) :
    (run.step settings id answers .elapsed).state =
      .ended (.error (run.signals.causeAtRead id)) := by
  rw [step_elapsed settings id answers hstate, beginRead_of_fired hfired]
  rfl

/-- Once a signal has fired, a wait begins neither a read nor a sleep. -/
theorem deeds_step_of_fired (hfired : run.signals.fired = true) :
    (run.step settings id answers event).deeds = run.deeds := by
  cases event with
  | looked | abandoned | stopped => rfl
  | answered =>
    cases hstate : run.state with
    | reading lastSeen =>
      rw [(step_answered settings id answers hstate).2.2.2, answered_of_fired hfired hstate]
      exact List.append_nil _
    | sleeping lastSeen | ended result => simp only [WaitRun.step, hstate]
  | elapsed =>
    cases hstate : run.state with
    | sleeping lastSeen =>
      rw [step_elapsed settings id answers hstate, beginRead_of_fired hfired]
      exact List.append_nil _
    | reading lastSeen | ended result => simp only [WaitRun.step, hstate]

theorem deeds_after_of_fired (hfired : run.signals.fired = true) (events : List WaitEvent) :
    (run.after settings id answers events).deeds = run.deeds := by
  induction events generalizing run with
  | nil => rfl
  | cons event rest ih => exact (ih (fired_step hfired)).trans (deeds_step_of_fired hfired)

theorem reading_step {lastSeen : Option Int16} (hstate : run.state = .reading lastSeen)
    (hevent : event ≠ .answered) :
    (run.step settings id answers event).state = .reading lastSeen ∧
      (run.step settings id answers event).answered = run.answered := by
  cases event with
  | answered => exact absurd rfl hevent
  | elapsed | looked => simp [step, hstate, WaitState.onSignal]
  | abandoned | stopped => exact ⟨hstate, rfl⟩

theorem reading_after {lastSeen : Option Int16} (hstate : run.state = .reading lastSeen)
    {events : List WaitEvent} (h : .answered ∉ events) :
    (run.after settings id answers events).state = .reading lastSeen ∧
      (run.after settings id answers events).answered = run.answered := by
  induction events generalizing run with
  | nil => exact ⟨hstate, rfl⟩
  | cons event rest ih =>
    rw [List.mem_cons, not_or] at h
    obtain ⟨hstep, hsame⟩ :=
      @reading_step settings id answers run event lastSeen hstate fun heq => h.1 heq.symm
    obtain ⟨hafter, hanswered⟩ := ih hstep h.2
    exact ⟨hafter, hanswered.trans hsame⟩

theorem sleeping_after {lastSeen : Option Int16} (hstate : run.state = .sleeping lastSeen)
    {events : List WaitEvent} (h : ∀ event ∈ events, event.isRousing = false) :
    (run.after settings id answers events).state = .sleeping lastSeen := by
  induction events generalizing run with
  | nil => exact hstate
  | cons event rest ih =>
    obtain ⟨hevent, hrest⟩ := List.forall_mem_cons.mp h
    refine ih ?_ hrest
    cases event with
    | elapsed | looked => exact absurd hevent (by decide)
    | answered => simp only [WaitRun.step, hstate]
    | abandoned | stopped => exact hstate

/-- What becomes of a wait to which a signal and later events happen. It does nothing more, and ends
with the event by which it finds out, asleep or at its read; by then both signals may have fired. -/
structure Heeds (settings : CoordinatorSettings) (id : Int64) (answers : Nat → StatusAnswer)
    (run : WaitRun) (signal : WaitEvent) (later : List WaitEvent) : Prop where
  deeds : (run.after settings id answers (signal :: later)).deeds = run.deeds
  ended : ∀ result, run.state = .ended result →
    (run.after settings id answers (signal :: later)).state = .ended result
  asleep : ∀ lastSeen, run.state = .sleeping lastSeen →
    (∀ event ∈ later, event.isRousing = false) →
    (run.after settings id answers (signal :: later)).state = .sleeping lastSeen
  looked : ∀ lastSeen early rest, run.state = .sleeping lastSeen →
    (∀ event ∈ early, event.isRousing = false) → later = early ++ .looked :: rest →
    (run.after settings id answers (signal :: later)).state = .ended
      (.error ((run.after settings id answers (signal :: early)).signals.causeAsleep id))
  elapsed : ∀ lastSeen early rest, run.state = .sleeping lastSeen →
    (∀ event ∈ early, event.isRousing = false) → later = early ++ .elapsed :: rest →
    (run.after settings id answers (signal :: later)).state = .ended
      (.error ((run.after settings id answers (signal :: early)).signals.causeAtRead id))
  reading : ∀ lastSeen, run.state = .reading lastSeen → .answered ∉ later →
    (run.after settings id answers (signal :: later)).state = .reading lastSeen
  answered : ∀ lastSeen early rest, run.state = .reading lastSeen →
    .answered ∉ early → later = early ++ .answered :: rest →
    (run.after settings id answers (signal :: later)).state = .ended
      (if goesOn settings.waiting (answers run.answered) then
        .error ((run.after settings id answers (signal :: early)).signals.causeAsleep id)
      else decided id (answers run.answered))

theorem heeds_signal (hsignal : event.isSignal = true) (later : List WaitEvent) :
    run.Heeds settings id answers event later := by
  obtain ⟨hstate, hdeeds, hanswered⟩ := @signal_step settings id answers run event hsignal
  have hfired := @fired_step_of_isSignal settings id answers run event hsignal
  have hsplit : ∀ more, run.after settings id answers (event :: more) =
      (run.step settings id answers event).after settings id answers more := fun _ => rfl
  have hmore : ∀ early next rest, later = early ++ next :: rest →
      run.after settings id answers (event :: later) =
        ((run.after settings id answers (event :: early)).step settings id answers next).after
          settings id answers rest := by
    rintro early next rest rfl
    exact after_append run (event :: early) (next :: rest)
  have hstill : ∀ early, (run.after settings id answers (event :: early)).signals.fired = true :=
    fun early => fired_after hfired early
  exact {
    deeds := (deeds_after_of_fired hfired later).trans hdeeds
    ended := fun result hended => (after_ended (hstate.trans hended) later).1
    asleep := fun lastSeen hsleeping hlater => sleeping_after (hstate.trans hsleeping) hlater
    looked := by
      intro lastSeen early rest hsleeping hearly hlater
      have hasleep := @sleeping_after settings id answers _ _ (hstate.trans hsleeping) _ hearly
      rw [hmore early .looked rest hlater]
      exact (after_ended (looked_of_fired (hstill early) hasleep) rest).1
    elapsed := by
      intro lastSeen early rest hsleeping hearly hlater
      have hasleep := @sleeping_after settings id answers _ _ (hstate.trans hsleeping) _ hearly
      rw [hmore early .elapsed rest hlater]
      exact (after_ended (elapsed_of_fired (hstill early) hasleep) rest).1
    reading := fun lastSeen hreading hlater => (reading_after (hstate.trans hreading) hlater).1
    answered := by
      intro lastSeen early rest hreading hearly hlater
      -- The first answer after the signal is the one to the read in flight.
      obtain ⟨hatRead, hsame⟩ :=
        @reading_after settings id answers _ _ (hstate.trans hreading) _ hearly
      have hended := @answered_of_fired settings id answers _ _ (hstill early) hatRead
      rw [hsplit early, hsame.trans hanswered] at hended
      rw [hmore early .answered rest hlater]
      exact (after_ended hended rest).1 }

end WaitRun

open WaitRun (rounds)

/-- What every wait does.  Unless a signal fires, it reads until the first answer that is no code in
the waiting set, sleeping once between two reads, and ends with what that answer decides; if there
is none it never ends.  A signal starts no read and no sleep: it ends a wait that sleeps, and a read
that is in flight still decides unless its answer would let the wait go on.  A wait that finds both
signals ends with the one that it picks, but at the end of its interval with its token. -/
theorem waitRun_spec (settings : CoordinatorSettings) (id : Int64) (answers : Nat → StatusAnswer) :
    -- Waits that no signal reaches.
    (∀ (pick : Signal) (events : List WaitEvent), (∀ event ∈ events, event.isSignal = false) →
      (waitRun settings id answers ⟨false, false, pick⟩ events).Quiet settings id answers) ∧
    (∀ (pick : Signal) (events : List WaitEvent), (∀ event ∈ events, event.isSignal = false) →
      ∀ k, (∀ i < k, goesOn settings.waiting (answers i) = true) →
        goesOn settings.waiting (answers k) = false →
        (waitRun settings id answers ⟨false, false, pick⟩ (events ++ rounds (k + 1))).state =
          .ended (decided id (answers k))) ∧
    -- Waits that begin when a signal has fired.
    (∀ (signals : Signals) (events : List WaitEvent), signals.fired = true →
      (waitRun settings id answers signals events).state =
          .ended (.error (signals.causeAtRead id)) ∧
        (waitRun settings id answers signals events).deeds = []) ∧
    -- Waits that a signal reaches while they go on.
    ∀ (signals : Signals) (events : List WaitEvent) (signal : WaitEvent) (later : List WaitEvent),
      signal.isSignal = true →
      let before := waitRun settings id answers signals events
      before.Heeds settings id answers signal later ∧
        before.after settings id answers (signal :: later) =
          waitRun settings id answers signals (events ++ signal :: later) := by
  have hstart : ∀ pick,
      (WaitRun.start settings id ⟨false, false, pick⟩).Quiet settings id answers :=
    fun _ => WaitRun.quiet_start settings id answers rfl
  refine ⟨fun pick events hevents => ((hstart pick).after rfl hevents).1,
    fun pick events hevents k hbefore hlast => ?_, fun signals events hfired => ?_,
    fun signals events signal later hsignal => ?_⟩
  · obtain ⟨hquiet, hsignals⟩ := (hstart pick).after rfl hevents
    rw [waitRun, WaitRun.after_append]
    exact hquiet.ends hsignals hbefore hlast
  · have hended : (WaitRun.start settings id signals).state =
        .ended (.error (signals.causeAtRead id)) := beginRead_of_fired hfired
    obtain ⟨hstate, hdeeds⟩ := @WaitRun.after_ended settings id answers _ _ hended events
    refine ⟨hstate, hdeeds.trans ?_⟩
    rw [WaitRun.start, beginRead_of_fired hfired]
    rfl
  · exact ⟨WaitRun.heeds_signal hsignal later, (WaitRun.after_append _ _ _).symm⟩

/-- A job that is seen pending twice and then succeeded: the wait succeeds with its third read.
Given up during its first read, it does not read again. If the coordinator stops as well before the
answer comes, it ends with the one of the two that it picks. -/
theorem waitRun_third_read :
    let answers : Nat → StatusAnswer := fun i => .ok (some (if i < 2 then 0 else 2))
    (waitRun {} 7 answers ⟨false, false, .token⟩ (rounds 3)).state = .ended (.ok ()) ∧
      (waitRun {} 7 answers ⟨false, false, .shutDown⟩ [.abandoned, .elapsed, .answered]).state =
        .ended (.error (.abandoned 7)) ∧
      ∀ pick, (waitRun {} 7 answers ⟨false, false, pick⟩ [.abandoned, .stopped, .answered]).state =
        .ended (.error (pick.cause 7)) := by
  intro answers
  have hpending : goesOn WaitingSet.standard (.ok (some 0)) = true := by
    decide
  have hspec := waitRun_spec {} 7 answers
  refine ⟨hspec.2.1 .token [] (by simp) 2 (fun i hi => ?_) (by decide), ?_, fun pick => ?_⟩
  · simp only [answers, if_pos hi]
    exact hpending
  · have hheeds := (hspec.2.2.2 ⟨false, false, .shutDown⟩ [] .abandoned [.elapsed, .answered] rfl).1
    have hanswered := hheeds.answered none [.elapsed] [] rfl (by decide) rfl
    rwa [show answers _ = .ok (some 0) from rfl, if_pos hpending] at hanswered
  · have hheeds := (hspec.2.2.2 ⟨false, false, pick⟩ [] .abandoned [.stopped, .answered] rfl).1
    have hanswered := hheeds.answered none [.stopped] [] rfl (by decide) rfl
    rwa [show answers _ = .ok (some 0) from rfl, if_pos hpending] at hanswered

/-! ## 5. Waits on a store -/

section

variable {σ : Type} [JobStore σ]

/-- The answers of a store to one status read after the other. -/
def storeAnswers (id : Int64) : σ → Nat → StatusAnswer
  | store, 0 => (JobStore.fetchStatus store id).1
  | store, i + 1 => storeAnswers id (JobStore.fetchStatus store id).2 i

theorem read_eq_step {run : WaitRun} {store : σ} {lastSeen : Option Int16}
    (hsignals : run.signals = ⟨false, false, default⟩)
    (hanswer : answers run.answered = (JobStore.fetchStatus store id).1)
    (hstate : run.state = .reading lastSeen) :
    (WaitState.reading lastSeen).read settings.waiting id ⟨false, false, default⟩ store =
      ((run.step settings id answers .answered).state, (JobStore.fetchStatus store id).2,
        (takeAnswer settings.waiting id ⟨false, false, default⟩ lastSeen
          (JobStore.fetchStatus store id).1).2) := by
  simp only [WaitState.read, WaitRun.step, WaitRun.enter, hstate, hsignals, hanswer]

/-- The answer to a read that is in flight, and what comes of the rounds after it. -/
theorem waitFor_reading {run : WaitRun} {store : σ} {lastSeen : Option Int16} {n : Nat}
    (hsignals : run.signals = ⟨false, false, default⟩)
    (hanswer : answers run.answered = (JobStore.fetchStatus store id).1)
    (hstate : run.state = .reading lastSeen)
    (hrest : (waitFor settings.waiting id n (run.step settings id answers .answered).state
        (JobStore.fetchStatus store id).2).1 =
      ((run.step settings id answers .answered).after settings id answers (rounds n)).state) :
    (waitFor settings.waiting id (n + 1) (.reading lastSeen) store).1 =
      ((run.step settings id answers .answered).after settings id answers (rounds n)).state := by
  obtain ⟨-, hon, hend, -⟩ := WaitRun.step_answered settings id answers hstate
  rw [waitFor]
  simp only [WaitState.onTimer, read_eq_step hsignals hanswer hstate]
  cases hafter : (run.step settings id answers .answered).state with
  | reading seen =>
    cases hgoesOn : goesOn settings.waiting (answers run.answered) with
    | true =>
      obtain ⟨code, hsleep⟩ := hon hgoesOn
      rw [hsignals, beginSleep_of_quiet rfl, hafter] at hsleep
      cases hsleep
    | false =>
      rw [hend hgoesOn] at hafter
      cases hafter
  | sleeping seen =>
    rw [hafter] at hrest
    exact hrest
  | ended result => exact (WaitRun.after_ended hafter (rounds n)).1.symm

theorem waitFor_run {run : WaitRun} {store : σ} {n : Nat}
    (hsignals : run.signals = ⟨false, false, default⟩)
    (hanswers : ∀ i, answers (run.answered + i) = storeAnswers id store i) :
    (waitFor settings.waiting id n run.state store).1 =
      (run.after settings id answers (rounds n)).state := by
  induction n generalizing run store with
  | zero => rfl
  | succ n ih =>
    have hread : ∀ (run : WaitRun) (lastSeen : Option Int16), run.state = .reading lastSeen →
        run.signals = ⟨false, false, default⟩ →
        (∀ i, answers (run.answered + i) = storeAnswers id store i) →
        (waitFor settings.waiting id (n + 1) (.reading lastSeen) store).1 =
          ((run.step settings id answers .answered).after settings id answers
            (rounds n)).state := by
      intro run lastSeen hstate hsignals hanswers
      have hanswered := (WaitRun.step_answered settings id answers hstate).1
      refine waitFor_reading hsignals (hanswers 0) hstate (ih ?_ fun i => ?_)
      · rw [WaitRun.signals_step rfl, hsignals]
      · rw [hanswered, Nat.add_assoc, Nat.add_comm 1 i]
        exact hanswers (i + 1)
    have hsplit : run.after settings id answers (rounds (n + 1)) =
        ((run.step settings id answers .elapsed).step settings id answers .answered).after settings
          id answers (rounds n) := rfl
    rw [hsplit]
    cases hstate : run.state with
    | reading lastSeen =>
      rw [WaitRun.step_elapsed_of_reading settings id answers hstate]
      exact hread run lastSeen hstate hsignals hanswers
    | sleeping lastSeen =>
      have helapsed := WaitRun.step_elapsed settings id answers hstate
      rw [hsignals, beginRead_of_quiet rfl] at helapsed
      rw [helapsed]
      exact hread (run.enter settings.pollInterval (.reading lastSeen)) lastSeen rfl hsignals
        hanswers
    | ended result =>
      have hended := (@WaitRun.after_ended settings id answers run result hstate
        (rounds (n + 1))).1
      rw [hsplit] at hended
      rw [hended]
      rfl

theorem waitFor_eq_waitRun (settings : CoordinatorSettings) (id : Int64) (store : σ) (n : Nat) :
    (waitFor settings.waiting id n (beginRead id ⟨false, false, default⟩ none) store).1 =
      (waitRun settings id (storeAnswers id store) ⟨false, false, default⟩ (rounds n)).state := by
  refine @waitFor_run settings id (storeAnswers id store) σ _
    (WaitRun.start settings id ⟨false, false, default⟩) store n rfl fun i => ?_
  rw [show (WaitRun.start settings id ⟨false, false, default⟩).answered = 0 from rfl, Nat.zero_add]

end

end JobDesk.Coordinator
