import JobDesk.Proofs.Coordinator.Sightings
import JobDesk.Proofs.Desk.OneJob
import JobDesk.Proofs.Desk.Views

/-!
# Sightings at a desk — what a wait reports among others

At a busy desk the steps of a wait fall in with those of others, and with whatever else happens
there.  A wait reports the codes that the table answers to its own reads, those that follow
themselves once, and it reports the same when nobody else waits.
-/

namespace JobDesk

open Coordinator

/-! ## 1. The moves of a wait -/

def Event.ofWait? : Event → Option String
  | .wait name _ _ _ | .wake name | .abandon name | .drop name => some name
  | .table _ | .submit _ | .cancel _ | .cancelIfPending _ | .status _ | .fetch _ | .shutDown => none

theorem Event.isWait_of_ofWait? {event : Event} (h : event.ofWait? = none) :
    event.isWait = false := by
  cases event with
  | wait | wake | abandon | drop => cases h
  | _ => rfl

namespace Move

def ofWait? : Move → Option String
  | .whole event => event.ofWait?
  | .begin name _ _ _ | .elapse name | .answer name | .fire name | .look name => some name
  | .call .. | .effect _ | .halt | .tick _ => none

def begins? : Move → Option (String × Int64)
  | .whole (.wait name id _ _) | .begin name id _ _ => some (name, id)
  | _ => none

/-- The moves of a run without the steps of other waits than the one under a name. -/
def withoutOthers (name : String) (moves : List Move) : List Move :=
  moves.filter (·.ofWait?.all (· == name))

/-- What a move that is no step of theirs leaves of some waits: the first shutdown ends those that
sleep. -/
def leaves (isShutDown : Bool) : Move → List Waiter → List Waiter
  | .whole .shutDown, waiters =>
    if isShutDown then waiters
    else (waiters.map Desk.stopped).filter fun waiter => (Desk.ended? waiter).isNone
  | _, waiters => waiters

theorem leaves_of_ne {move : Move} (h : move ≠ .whole .shutDown) (isShutDown : Bool)
    (waiters : List Waiter) : move.leaves isShutDown waiters = waiters := by
  cases move with
  | whole event =>
    cases event with
    | shutDown => exact absurd rfl h
    | _ => rfl
  | _ => rfl

theorem leaves_nil (isShutDown : Bool) (move : Move) : move.leaves isShutDown [] = [] := by
  by_cases h : move = .whole .shutDown
  · rw [h]
    cases isShutDown <;> rfl
  · rw [leaves_of_ne h]

end Move

namespace Desk

def newcomer (desk : Desk) (name : String) (id : Int64) (token : Option Bool) (pick : Signal) :
    Waiter :=
  let signals : Signals := ⟨token.getD false, desk.coordinator.isShutDown, pick⟩
  ⟨name, id, token.getD false, token.isSome, pick, beginRead id signals none⟩

def roused? (desk : Desk) (waiter : Waiter) : Option Waiter :=
  match waiter.state with
  | .sleeping _ =>
    some { waiter with state := waiter.state.onTimer waiter.id (desk.signals waiter) }
  | .reading _ | .ended _ => none

def reply? (desk : Desk) (waiter : Waiter) : Option StatusAnswer :=
  if waiter.state.isReading then some (JobStore.fetchStatus desk.store waiter.id).1 else none

/-- The answer to a read when it is asked for: a closed table turns it away, and an open one
answers later. -/
def askReply? (desk : Desk) (waiter : Waiter) : Option StatusAnswer :=
  if desk.store.isClosed then desk.reply? waiter else none

def lateReply? (desk : Desk) (waiter : Waiter) : Option StatusAnswer :=
  if waiter.state.isReading then some (.ok (desk.store.status? waiter.id)) else none

def answer? (desk : Desk) : Move → Option StatusAnswer
  | .whole (.wait name id token pick) => desk.reply? (desk.newcomer name id token pick)
  | .whole (.wake name) => ((desk.named name).head?.bind desk.roused?).bind desk.reply?
  | .begin name id token pick => desk.askReply? (desk.newcomer name id token pick)
  | .elapse name => ((desk.named name).head?.bind desk.roused?).bind desk.askReply?
  | .answer name => (desk.named name).head?.bind desk.lateReply?
  | _ => none

end Desk

namespace BusyDesk

def stepsOf (name : String) : BusyDesk → List Move → List (BusyDesk × Move)
  | _, [] => []
  | busy, move :: rest =>
    let later := stepsOf name (busy.apply move).busy rest
    if move.ofWait? = some name then (busy, move) :: later else later

/-- What the wait under a name reports at the debug level in a run. -/
def recordsOf (name : String) (busy : BusyDesk) (moves : List Move) : List LogRecord :=
  (busy.stepsOf name moves).flatMap fun (found, move) =>
    debugRecords (found.apply move).step.notices

/-- The answers that the wait under a name gets to its reads in a run. -/
def answersTo (name : String) (busy : BusyDesk) (moves : List Move) : List StatusAnswer :=
  (busy.stepsOf name moves).filterMap fun (found, move) => found.desk.answer? move

variable {name : String} {busy : BusyDesk} {move : Move}

theorem stepsOf_own (h : move.ofWait? = some name) (rest : List Move) :
    busy.stepsOf name (move :: rest) =
      (busy, move) :: (busy.apply move).busy.stepsOf name rest :=
  if_pos h

theorem stepsOf_other (h : move.ofWait? ≠ some name) (rest : List Move) :
    busy.stepsOf name (move :: rest) = (busy.apply move).busy.stepsOf name rest :=
  if_neg h

theorem recordsOf_own (h : move.ofWait? = some name) (rest : List Move) :
    busy.recordsOf name (move :: rest) =
      debugRecords (busy.apply move).step.notices ++
        (busy.apply move).busy.recordsOf name rest := by
  rw [recordsOf, stepsOf_own h, List.flatMap_cons]
  rfl

theorem recordsOf_other (h : move.ofWait? ≠ some name) (rest : List Move) :
    busy.recordsOf name (move :: rest) = (busy.apply move).busy.recordsOf name rest := by
  rw [recordsOf, stepsOf_other h]
  rfl

theorem answersTo_own (h : move.ofWait? = some name) (rest : List Move) :
    busy.answersTo name (move :: rest) =
      (busy.desk.answer? move).toList ++ (busy.apply move).busy.answersTo name rest := by
  rw [answersTo, stepsOf_own h]
  cases hanswer : busy.desk.answer? move with
  | none => exact List.filterMap_cons_none hanswer
  | some answer => exact List.filterMap_cons_some hanswer

theorem answersTo_other (h : move.ofWait? ≠ some name) (rest : List Move) :
    busy.answersTo name (move :: rest) = (busy.apply move).busy.answersTo name rest := by
  rw [answersTo, stepsOf_other h]
  rfl

end BusyDesk

/-! ## 2. Moves of others -/

namespace Desk

variable {desk after : Desk} {name : String} {waiter : Waiter}

theorem Returns.named (h : desk.Returns waiter after) (hname : waiter.name ≠ name) :
    after.named name = desk.named name := by
  obtain ⟨back, hwaiters, hback⟩ := h
  have hnone : back.filter (·.name == name) = [] :=
    List.filter_eq_nil_iff.mpr fun other hmem => by simpa [(hback other hmem).1] using hname
  rw [Desk.named, hwaiters, List.filter_append, hnone, List.append_nil]
  rfl

theorem Serves.named {busier : String} (h : desk.Serves busier after) (hname : busier ≠ name) :
    after.named name = desk.named name := by
  rcases h with hsame | ⟨waiter, -, rfl, hreturns⟩
  · rw [Desk.named, hsame]
    rfl
  · rw [hreturns.named hname, named_without hname]

end Desk

namespace BusyDesk

variable {name : String} {move : Move}

theorem named_apply (h : move.ofWait? ≠ some name) (busy : BusyDesk) :
    (busy.apply move).busy.desk.named name =
      move.leaves busy.desk.coordinator.isShutDown (busy.desk.named name) := by
  have hname : ∀ {other}, move.ofWait? = some other → other ≠ name := by
    rintro other hother rfl
    exact h hother
  -- Each move hands the waits of one name on, or of none; a shutdown is the only one for all.
  cases move with
  | whole event =>
    cases event with
    | table | submit | cancel | cancelIfPending | status | fetch =>
      rw [apply_whole (Desk.isEarly_of_not_isWait rfl busy.desk)]
      rfl
    | shutDown =>
      rw [apply_whole (Desk.isEarly_of_not_isWait rfl busy.desk)]
      cases hshut : busy.desk.coordinator.isShutDown with
      | true =>
        rw [Desk.shutDown_again hshut]
        rfl
      | false => exact (Desk.shutDown_spec hshut name).1
    | wait =>
      rw [apply_whole (Desk.isEarly_of_ne_wake (by simp) busy.desk)]
      exact (busy.desk.returns_read _).named (hname rfl)
    | wake other =>
      cases hearly : busy.desk.isEarly (.wake other) with
      | true =>
        rw [apply_early hearly]
        rfl
      | false =>
        rw [apply_whole hearly]
        exact (busy.desk.serves_wake other).named (hname rfl)
    | abandon other =>
      rw [apply_whole (Desk.isEarly_of_ne_wake (by simp) busy.desk)]
      exact (busy.desk.serves_abandon other).named (hname rfl)
    | drop other =>
      rw [apply_whole (Desk.isEarly_of_ne_wake (by simp) busy.desk)]
      exact (busy.desk.serves_drop other).named (hname rfl)
  | call caller errand =>
    have hgoes := busy.goes (.call caller errand)
    generalize busy.apply (.call caller errand) = moved at hgoes ⊢
    cases hgoes with
    | letIn => rfl
    | refused => cases errand <;> rfl
  | effect caller =>
    have hgoes := busy.goes (.effect caller)
    generalize busy.apply (.effect caller) = moved at hgoes ⊢
    cases hgoes <;> rfl
  | begin => exact (busy.desk.returns_ask _).named (hname rfl)
  | elapse other => exact (busy.desk.serves_elapse other).named (hname rfl)
  | answer other => exact (busy.desk.serves_answerRead other).named (hname rfl)
  | fire other => exact (busy.desk.serves_fire other).named (hname rfl)
  | look other => exact (busy.desk.serves_look other).named (hname rfl)
  | halt | tick => rfl

end BusyDesk

namespace Desk

variable {α : Type} {event : Event}

theorem debugRecords_ofStore {answer : StoreResult MemoryStore α} {notices : α → List Notice}
    (h : ∀ value, debugRecords (notices value) = []) :
    debugRecords (Outcome.ofStore answer notices).notices = [] := by
  obtain ⟨result, store⟩ := answer
  cases result with
  | ok value => exact h value
  | error error => rfl

theorem debugRecords_whenRunning (c : Coordinator) (store : MemoryStore)
    {operation : Unit → Outcome MemoryStore α} (h : debugRecords (operation ()).notices = []) :
    debugRecords (c.whenRunning store operation).notices = [] := by
  unfold Coordinator.whenRunning
  split
  · rfl
  · exact h

theorem debugRecords_apply (h : event.isWait = false) (desk : Desk) :
    debugRecords (desk.apply event).notices = [] := by
  cases event with
  | table action => rfl
  | submit config =>
    refine debugRecords_whenRunning desk.coordinator desk.store ?_
    cases Payload.encode config with
    | error fault => rfl
    | ok payload => exact debugRecords_ofStore fun _ => rfl
  | cancel id =>
    exact debugRecords_whenRunning desk.coordinator desk.store (debugRecords_ofStore fun _ => rfl)
  | cancelIfPending id =>
    refine debugRecords_whenRunning desk.coordinator desk.store (debugRecords_ofStore ?_)
    intro changed
    cases changed <;> rfl
  | status id | fetch id =>
    exact debugRecords_whenRunning desk.coordinator desk.store (debugRecords_ofStore fun _ => rfl)
  | shutDown =>
    simp only [Desk.apply, Desk.shutDown, Coordinator.shutDown]
    split <;> rfl
  | wait | wake | abandon | drop => cases h

end Desk

namespace BusyDesk

variable {move : Move}

theorem debugRecords_of_ofWait? (h : move.ofWait? = none) (busy : BusyDesk) :
    debugRecords (busy.apply move).step.notices = [] := by
  have hgoes := busy.goes move
  generalize busy.apply move = moved at hgoes ⊢
  cases hgoes with
  | early | letIn | nothing | tick => rfl
  | halt =>
    simp only [Desk.halt, Coordinator.shutDown]
    split <;> rfl
  | whole => exact Desk.debugRecords_apply (Event.isWait_of_ofWait? h) busy.desk
  | @refused caller errand => exact Desk.debugRecords_apply (Desk.isWait_event errand) busy.desk
  | @effect caller errand =>
    exact Desk.debugRecords_apply (Desk.isWait_event errand) busy.desk.reopened
  | begin | elapse | answer | fire | look => cases h

end BusyDesk

/-! ## 3. One wait -/

def Coordinator.heard (codes : List Int16) (answer? : Option StatusAnswer) : List Int16 :=
  codes ++ answer?.toList.filterMap codeOf?

theorem Coordinator.heard_none (codes : List Int16) : heard codes none = codes :=
  List.append_nil codes

/-- A wait stands at a desk, if it is still there, with what it has read last in mind. -/
inductive Desk.Follows (desk : Desk) (name : String) (id : Int64) (codes : List Int16) : Prop
  | gone (h : desk.named name = [])
  | there (waiter : Waiter) (h : desk.named name = [waiter]) (hid : waiter.id = id)
      (hrecalls : waiter.state.Recalls codes)

/-- A step of a wait reports what it adds to the codes that have been read, and leaves the wait with
them in mind. -/
structure Step.Tells (step : Step) (name : String) (id : Int64) (codes read : List Int16) :
    Prop where
  records : sightings id read = sightings id codes ++ debugRecords step.notices
  follows : step.desk.Follows name id read

namespace Desk

variable {desk after : Desk} {name : String} {id : Int64} {codes read : List Int16}
variable {waiter : Waiter} {move : Move} {notices : List Notice}

theorem notices_putBack (desk : Desk) (waiter : Waiter) (notices : List Notice) :
    (desk.putBack waiter notices).notices = notices := by
  unfold putBack
  split <;> rfl

theorem tells_idle (h : desk.Follows name id codes) : desk.idle.Tells name id codes codes :=
  ⟨(List.append_nil _).symm, h⟩

theorem tells_putBack (hfree : desk.named name = []) (hname : waiter.name = name)
    (hid : waiter.id = id) (hrecalls : waiter.state.Recalls read)
    (hrecords : sightings id read = sightings id codes ++ debugRecords notices) :
    (desk.putBack waiter notices).Tells name id codes read := by
  refine ⟨by rw [notices_putBack, hrecords], ?_⟩
  have hnamed := (putBack_self hname hfree notices).2
  cases hstate : waiter.state with
  | ended result =>
    rw [hstate] at hnamed
    exact .gone hnamed
  | reading lastSeen | sleeping lastSeen =>
    rw [hstate] at hnamed
    exact .there waiter hnamed hid hrecalls

theorem tells_waiting (hfree : desk.named name = []) (hname : waiter.name = name)
    (hid : waiter.id = id) (hrecalls : waiter.state.Recalls codes) :
    (desk.putBack waiter []).Tells name id codes codes :=
  tells_putBack hfree hname hid hrecalls (List.append_nil _).symm

theorem tells_read (hfree : desk.named name = []) (hname : waiter.name = name)
    (hid : waiter.id = id) (hrecalls : waiter.state.Recalls codes) :
    (desk.read waiter).Tells name id codes (heard codes (desk.reply? waiter)) := by
  subst hid
  unfold Desk.read reply?
  cases hstate : waiter.state with
  | reading lastSeen =>
    obtain rfl : lastSeen = codes.getLast? := by rwa [hstate] at hrecalls
    obtain ⟨hnext, hrecords⟩ := takeAnswer_sightings desk.coordinator.settings.waiting waiter.id
      (desk.signals waiter) codes (JobStore.fetchStatus desk.store waiter.id).1
    exact tells_putBack hfree hname rfl hnext hrecords
  | sleeping | ended =>
    rw [hstate] at hrecalls
    rw [if_neg (by simp [WaitState.isReading]), heard_none]
    exact tells_waiting hfree hname rfl hrecalls

theorem tells_ask (hfree : desk.named name = []) (hname : waiter.name = name)
    (hid : waiter.id = id) (hrecalls : waiter.state.Recalls codes) :
    (desk.ask waiter).Tells name id codes (heard codes (desk.askReply? waiter)) := by
  unfold ask askReply?
  split
  · exact tells_read hfree hname hid hrecalls
  · rw [heard_none]
    split
    · exact tells_waiting hfree hname hid hrecalls
    · exact tells_waiting hfree hname hid hrecalls

theorem name_of_named (h : desk.named name = [waiter]) : waiter.name = name :=
  name_of_head? (congrArg List.head? h)

theorem tells_wake (h : desk.Follows name id codes) (hearly : desk.isEarly (.wake name) = false) :
    (desk.apply (.wake name)).Tells name id codes
      (heard codes (desk.answer? (.whole (.wake name)))) := by
  rw [answer?]
  cases h with
  | gone h =>
    simp only [Desk.apply, take?_eq, h, List.head?_nil, Option.bind_none, heard_none]
    exact tells_idle (.gone h)
  | there waiter h hid hrecalls =>
    have hfree := named_without_self desk name
    have hname := name_of_named h
    rw [apply_wake (congrArg List.head? h), h, List.head?_cons, Option.bind_some, roused?]
    cases hstate : waiter.state with
    | sleeping lastSeen =>
      rw [hstate] at hrecalls
      exact tells_read hfree hname hid (hrecalls.onTimer waiter.id _)
    | reading lastSeen =>
      rw [isEarly_wake, h, List.any_cons, hstate] at hearly
      cases hearly
    | ended result => exact tells_read hfree hname hid trivial

theorem answer?_of_isEarly (h : desk.Follows name id codes)
    (hearly : desk.isEarly (.wake name) = true) : desk.answer? (.whole (.wake name)) = none := by
  rw [isEarly_wake] at hearly
  rw [answer?]
  cases h with
  | gone h =>
    rw [h] at hearly
    cases hearly
  | there waiter h hid hrecalls =>
    rw [h, List.any_cons, List.any_nil, Bool.or_false] at hearly
    rw [h, List.head?_cons, Option.bind_some, roused?]
    cases hstate : waiter.state with
    | reading => rfl
    | sleeping | ended =>
      rw [hstate] at hearly
      cases hearly

theorem tells_abandon (h : desk.Follows name id codes) :
    (desk.apply (.abandon name)).Tells name id codes (heard codes none) := by
  rw [heard_none]
  cases h with
  | gone h =>
    simp only [Desk.apply, take?_eq, h, List.head?_nil]
    exact tells_idle (.gone h)
  | there waiter h hid hrecalls =>
    have hname := name_of_named h
    rw [apply_abandon (congrArg List.head? h)]
    exact tells_waiting (named_without_self desk name) hname hid (hrecalls.onSignal waiter.id _)

theorem tells_fire (h : desk.Follows name id codes) :
    (desk.fire name).Tells name id codes (heard codes none) := by
  rw [heard_none]
  cases h with
  | gone h =>
    simp only [fire, take?_eq, h, List.head?_nil]
    exact tells_idle (.gone h)
  | there waiter h hid hrecalls =>
    have hname := name_of_named h
    simp only [fire, take?_eq, h, List.head?_cons]
    exact tells_waiting (named_without_self desk name) hname hid hrecalls

theorem tells_look (h : desk.Follows name id codes) :
    (desk.look name).Tells name id codes (heard codes none) := by
  rw [heard_none]
  cases h with
  | gone h =>
    simp only [look, take?_eq, h, List.head?_nil]
    exact tells_idle (.gone h)
  | there waiter h hid hrecalls =>
    have hname := name_of_named h
    simp only [look, take?_eq, h, List.head?_cons]
    exact tells_waiting (named_without_self desk name) hname hid (hrecalls.onSignal waiter.id _)

theorem tells_drop (h : desk.Follows name id codes) :
    (desk.apply (.drop name)).Tells name id codes (heard codes none) := by
  simp only [Desk.apply, take?_eq, heard_none]
  have hgone : (desk.without name).Follows name id codes := .gone (named_without_self desk name)
  cases (desk.named name).head? with
  | none => exact tells_idle h
  | some waiter => exact tells_idle hgone

theorem tells_elapse (h : desk.Follows name id codes) :
    (desk.elapse name).Tells name id codes (heard codes (desk.answer? (.elapse name))) := by
  have hidle : desk.idle.Tells name id codes codes := tells_idle h
  rw [answer?, elapse, take?_eq]
  cases h with
  | gone h =>
    rw [h, List.head?_nil, Option.bind_none, Option.bind_none, heard_none]
    exact hidle
  | there waiter h hid hrecalls =>
    have hname := name_of_named h
    simp only [h, List.head?_cons, Option.map_some, Option.bind_some, roused?]
    cases hstate : waiter.state with
    | sleeping lastSeen =>
      rw [hstate] at hrecalls
      exact tells_ask (named_without_self desk name) hname hid (hrecalls.onTimer waiter.id _)
    | reading | ended =>
      rw [Option.bind_none, heard_none]
      exact hidle

theorem tells_answerRead (h : desk.Follows name id codes) :
    (desk.answerRead name).Tells name id codes (heard codes (desk.answer? (.answer name))) := by
  have hidle : desk.idle.Tells name id codes codes := tells_idle h
  rw [answer?, answerRead, take?_eq]
  cases h with
  | gone h =>
    rw [h, List.head?_nil, Option.bind_none, heard_none]
    exact hidle
  | there waiter h hid hrecalls =>
    subst hid
    have hname := name_of_named h
    simp only [h, List.head?_cons, Option.map_some, Option.bind_some, lateReply?]
    cases hstate : waiter.state with
    | reading lastSeen =>
      obtain rfl : lastSeen = codes.getLast? := by rwa [hstate] at hrecalls
      obtain ⟨hnext, hrecords⟩ := takeAnswer_sightings desk.coordinator.settings.waiting waiter.id
        (desk.signals waiter) codes (.ok (desk.store.status? waiter.id))
      exact tells_putBack (named_without_self desk name) hname rfl hnext hrecords
    | sleeping | ended =>
      rw [if_neg (by simp [WaitState.isReading]), heard_none]
      exact hidle

theorem Follows.passed {isShutDown : Bool} (h : desk.Follows name id codes)
    (hafter : after.named name = move.leaves isShutDown (desk.named name)) :
    after.Follows name id codes := by
  cases h with
  | gone h =>
    rw [h, Move.leaves_nil] at hafter
    exact .gone hafter
  | there waiter h hid hrecalls =>
    rw [h] at hafter
    by_cases hstops : move = .whole .shutDown ∧ isShutDown = false
    · obtain ⟨rfl, rfl⟩ := hstops
      rw [Move.leaves, if_neg (by simp), List.map_singleton, List.filter_singleton] at hafter
      cases hended : ended? (stopped waiter) with
      | some ended =>
        rw [hended] at hafter
        exact .gone hafter
      | none =>
        rw [hended] at hafter
        exact .there (stopped waiter) hafter hid (hrecalls.onSignal waiter.id _)
    · have hsame : move.leaves isShutDown [waiter] = [waiter] := by
        by_cases hmove : move = .whole .shutDown
        · subst hmove
          exact if_pos (by simpa using hstops)
        · exact Move.leaves_of_ne hmove isShutDown [waiter]
      rw [hsame] at hafter
      exact .there waiter hafter hid hrecalls

end Desk

namespace BusyDesk

variable {busy : BusyDesk} {name : String} {id : Int64} {codes : List Int16} {move : Move}
variable {moves : List Move}

theorem tells_first (hfree : busy.desk.named name = []) (hfirst : move.begins? = some (name, id)) :
    (busy.apply move).step.Tells name id [] (heard [] (busy.desk.answer? move)) := by
  cases move with
  | whole event =>
    cases event with
    | wait =>
      cases hfirst
      rw [apply_whole (Desk.isEarly_of_ne_wake (by simp) busy.desk)]
      exact Desk.tells_read hfree rfl rfl (recalls_beginRead id _ [])
    | table | submit | cancel | cancelIfPending | status | fetch | shutDown | wake | abandon
    | drop => cases hfirst
  | begin =>
    cases hfirst
    exact Desk.tells_ask hfree rfl rfl (recalls_beginRead id _ [])
  | call | effect | elapse | answer | fire | halt | look | tick => cases hfirst

/-- In every later one it reports what it reads there, unless it has read the same before. -/
theorem tells_own (h : busy.desk.Follows name id codes) (hown : move.ofWait? = some name)
    (hlater : move.begins?.map Prod.fst ≠ some name) :
    (busy.apply move).step.Tells name id codes (heard codes (busy.desk.answer? move)) := by
  cases move with
  | whole event =>
    cases event with
    | wait => exact absurd hown hlater
    | wake other =>
      obtain rfl := Option.some.inj hown
      cases hearly : busy.desk.isEarly (.wake other) with
      | true =>
        rw [apply_early hearly, Desk.answer?_of_isEarly h hearly, heard_none]
        exact Desk.tells_idle h
      | false =>
        rw [apply_whole hearly]
        exact Desk.tells_wake h hearly
    | abandon other =>
      obtain rfl := Option.some.inj hown
      rw [apply_whole (Desk.isEarly_of_ne_wake (by simp) busy.desk)]
      exact Desk.tells_abandon h
    | drop other =>
      obtain rfl := Option.some.inj hown
      rw [apply_whole (Desk.isEarly_of_ne_wake (by simp) busy.desk)]
      exact Desk.tells_drop h
    | table | submit | cancel | cancelIfPending | status | fetch | shutDown => cases hown
  | begin => exact absurd hown hlater
  | elapse other =>
    obtain rfl := Option.some.inj hown
    exact Desk.tells_elapse h
  | answer other =>
    obtain rfl := Option.some.inj hown
    exact Desk.tells_answerRead h
  | fire other =>
    obtain rfl := Option.some.inj hown
    exact Desk.tells_fire h
  | look other =>
    obtain rfl := Option.some.inj hown
    exact Desk.tells_look h
  | call | effect | halt | tick => cases hown

theorem records_run (h : busy.desk.Follows name id codes)
    (hlater : ∀ move ∈ moves, move.begins?.map Prod.fst ≠ some name) :
    sightings id (codes ++ (busy.answersTo name moves).filterMap codeOf?) =
      sightings id codes ++ busy.recordsOf name moves := by
  -- What the wait has read so far grows with its own steps; those of others leave it as it is.
  induction moves generalizing busy codes with
  | nil => exact (congrArg _ (List.append_nil codes)).trans (List.append_nil _).symm
  | cons move rest ih =>
    obtain ⟨hfirst, hrest⟩ := List.forall_mem_cons.mp hlater
    by_cases hown : move.ofWait? = some name
    · obtain ⟨hrecords, hfollows⟩ := tells_own h hown hfirst
      rw [answersTo_own hown, recordsOf_own hown, List.filterMap_append, ← List.append_assoc,
        ← List.append_assoc, ← hrecords]
      exact ih hfollows hrest
    · rw [answersTo_other hown, recordsOf_other hown]
      exact ih (h.passed (named_apply hown busy)) hrest

theorem ofWait?_of_begins? (h : move.begins? = some (name, id)) : move.ofWait? = some name := by
  cases move with
  | whole event =>
    cases event with
    | wait => exact congrArg (Option.map Prod.fst) h
    | table | submit | cancel | cancelIfPending | status | fetch | shutDown | wake | abandon
    | drop => cases h
  | begin => exact congrArg (Option.map Prod.fst) h
  | call | effect | elapse | answer | fire | halt | look | tick => cases h

theorem records_of_begins? (hfree : busy.desk.named name = [])
    (hfirst : move.begins? = some (name, id))
    (hlater : ∀ move ∈ moves, move.begins?.map Prod.fst ≠ some name) :
    busy.recordsOf name (move :: moves) =
      sightings id ((busy.answersTo name (move :: moves)).filterMap codeOf?) := by
  obtain ⟨hrecords, hfollows⟩ := tells_first hfree hfirst
  have hown := ofWait?_of_begins? hfirst
  have hrun := @records_run (busy.apply move).busy name id _ moves hfollows hlater
  rw [hrecords] at hrun
  rw [answersTo_own hown, recordsOf_own hown, List.filterMap_append]
  exact hrun.symm

end BusyDesk

/-! ## 4. Two desks -/

open MemoryStore (SameButReads ReadsAlike)

theorem MemoryStore.ReadsAlike.sameButReads (id : Int64) : ReadsAlike SameButReads id where
  isClosed h := h.isClosed.symm
  status? h := h.status? id
  fetchStatus h := h.fetchStatus id

def Desk.SameTo (name : String) (desk other : Desk) : Prop :=
  desk.SameIn SameButReads (·.name == name) other

def Step.SameTo (name : String) (step other : Step) : Prop :=
  step.SameIn SameButReads (·.name == name) other

namespace Desk

variable {name : String} {desk other : Desk}

theorem sameTo_of_alike (h : desk.Alike other) (hnamed : desk.named name = other.named name) :
    desk.SameTo name other :=
  ⟨h.coordinator, h.store, hnamed⟩

theorem SameTo.alike (h : desk.SameTo name other) : desk.Alike other := ⟨h.coordinator, h.store⟩

theorem SameTo.named (h : desk.SameTo name other) : desk.named name = other.named name :=
  h.waiters

/-- A step that the wait under the name makes in one go is the same at both desks. -/
theorem SameTo.apply (h : desk.SameTo name other) {event : Event}
    (hevent : event.ofWait? = some name) :
    (desk.apply event).SameTo name (other.apply event) := by
  have hreads := fun (waiter : Waiter) (_ : (desk.named name).head? = some waiter) =>
    ReadsAlike.sameButReads waiter.id
  cases event with
  | table | submit | cancel | cancelIfPending | status | fetch | shutDown => cases hevent
  | wait own id =>
    simp only [Desk.apply, h.coordinator]
    exact h.read (.sameButReads id)
  | wake own =>
    obtain rfl := Option.some.inj hevent
    exact SameIn.wake h h.named hreads
  | abandon own =>
    obtain rfl := Option.some.inj hevent
    exact SameIn.abandon h h.named
  | drop own =>
    obtain rfl := Option.some.inj hevent
    exact SameIn.drop h h.named

end Desk

namespace BusyDesk

variable {busy other : BusyDesk} {name : String} {move : Move}

structure SameTo (name : String) (busy other : BusyDesk) : Prop where
  desk : busy.desk.SameTo name other.desk
  calls : busy.calls = other.calls

theorem SameTo.refl (name : String) (busy : BusyDesk) : busy.SameTo name busy :=
  ⟨⟨rfl, .refl busy.desk.store, rfl⟩, rfl⟩

/-- Two runs that are the same to a wait have the same calls under way, so that nobody's are left
out. -/
theorem SameTo.erases (h : busy.SameTo name other) : busy.Erases (fun _ => false) other where
  desk := h.desk.alike
  calls := by simp [h.calls]
  reading := fun _ _ hreader => nomatch hreader

theorem isHonest_nobody (move : Move) : move.isHonest (fun _ => false) = true := by
  cases move <;> rfl

theorem isErased_of_ofWait? {whose : String} (h : move.ofWait? = some whose) :
    move.isErased (fun _ => false) = true := by
  cases move with
  | whole event =>
    cases event with
    | wait | wake | abandon | drop => rfl
    | table | submit | cancel | cancelIfPending | status | fetch | shutDown => cases h
  | begin | elapse | answer | fire | look => rfl
  | call | effect | halt | tick => cases h

theorem calls_of_ofWait? {whose : String} (h : move.ofWait? = some whose) (busy : BusyDesk) :
    (busy.apply move).calls = busy.calls := by
  cases move with
  | whole | begin | elapse | answer | fire | look => rfl
  | call | effect | halt | tick => cases h

theorem SameTo.passed {whose : String} (h : busy.SameTo name other)
    (hmove : move.ofWait? = some whose) (hwhose : whose ≠ name) :
    (busy.apply move).busy.SameTo name other := by
  have halike := h.erases.erased_alike (isErased_of_ofWait? hmove) (isHonest_nobody move)
  have hother : move.ofWait? ≠ some name := by simpa [hmove] using hwhose
  refine ⟨Desk.sameTo_of_alike (halike.symm.trans h.desk.alike) ?_,
    (calls_of_ofWait? hmove busy).trans h.calls⟩
  rw [named_apply hother, Move.leaves_of_ne (by rintro rfl; cases hmove)]
  exact h.desk.named

theorem SameTo.own (h : busy.SameTo name other) (hown : move.ofWait? = some name) :
    (busy.apply move).step.SameTo name (other.apply move).step := by
  have hreads := fun (waiter : Waiter) (_ : (busy.desk.named name).head? = some waiter) =>
    ReadsAlike.sameButReads waiter.id
  cases move with
  | whole event =>
    -- Whether the event comes too early is a matter of the wait itself.
    have hearly : busy.desk.isEarly event = other.desk.isEarly event := by
      cases event with
      | wake whose =>
        obtain rfl := Option.some.inj hown
        rw [Desk.isEarly_wake, Desk.isEarly_wake, h.desk.named]
      | _ =>
        rw [Desk.isEarly_of_ne_wake (by simp), Desk.isEarly_of_ne_wake (by simp)]
    cases htime : busy.desk.isEarly event with
    | true =>
      rw [apply_early htime, apply_early (hearly ▸ htime)]
      exact h.desk.idle
    | false =>
      rw [apply_whole htime, apply_whole (hearly ▸ htime)]
      exact h.desk.apply hown
  | begin whose id =>
    simp only [BusyDesk.apply, h.desk.coordinator]
    exact h.desk.ask (.sameButReads id)
  | elapse whose =>
    obtain rfl := Option.some.inj hown
    exact Desk.SameIn.elapse h.desk h.desk.named hreads
  | answer whose =>
    obtain rfl := Option.some.inj hown
    exact Desk.SameIn.answerRead h.desk h.desk.named hreads
  | fire whose =>
    obtain rfl := Option.some.inj hown
    exact Desk.SameIn.fire h.desk h.desk.named
  | look whose =>
    obtain rfl := Option.some.inj hown
    exact Desk.SameIn.look h.desk h.desk.named
  | call | effect | halt | tick => cases hown

theorem SameTo.kept (h : busy.SameTo name other) (hmove : move.ofWait? = none) :
    (busy.apply move).busy.SameTo name (other.apply move).busy := by
  have hnamed : (busy.apply move).busy.desk.named name =
      (other.apply move).busy.desk.named name := by
    rw [named_apply (by simp [hmove]), named_apply (by simp [hmove]), h.desk.named,
      h.desk.coordinator]
  have hsame : (busy.apply move).busy.Erases (fun _ => false) (other.apply move).busy →
      (busy.apply move).busy.SameTo name (other.apply move).busy := by
    rintro ⟨halike, hcalls, -⟩
    exact ⟨Desk.sameTo_of_alike halike hnamed, by simpa using hcalls.symm⟩
  cases move with
  | whole event =>
    have hwait := Event.isWait_of_ofWait? hmove
    rw [apply_whole (Desk.isEarly_of_not_isWait hwait busy.desk),
      apply_whole (Desk.isEarly_of_not_isWait hwait other.desk)] at hnamed ⊢
    exact ⟨Desk.sameTo_of_alike (h.desk.alike.apply hwait).desk hnamed, h.calls⟩
  | call | effect | halt | tick => exact hsame (h.erases.kept rfl rfl).2
  | begin | elapse | answer | fire | look => cases hmove

/-- Nothing else is reported by a wait when other waits take no steps. -/
theorem SameTo.recordsOf (h : busy.SameTo name other) (moves : List Move) :
    busy.recordsOf name moves = other.recordsOf name (Move.withoutOthers name moves) := by
  -- A step of another wait is taken by the first run alone, any other move by both.
  induction moves generalizing busy other with
  | nil => rfl
  | cons move rest ih =>
    rw [Move.withoutOthers]
    cases hwait : move.ofWait? with
    | none =>
      rw [List.filter_cons_of_pos (by simp [hwait]), recordsOf_other (by simp [hwait]),
        recordsOf_other (by simp [hwait])]
      exact ih (h.kept hwait)
    | some whose =>
      by_cases hwhose : whose = name
      · subst hwhose
        obtain ⟨-, hnotices, -, hdesk⟩ := h.own hwait
        have hcalls : (busy.apply move).calls = (other.apply move).calls := by
          rw [calls_of_ofWait? hwait, calls_of_ofWait? hwait, h.calls]
        rw [List.filter_cons_of_pos (by simp [hwait]), recordsOf_own hwait, recordsOf_own hwait,
          hnotices]
        exact congrArg _ (ih ⟨hdesk, hcalls⟩)
      · rw [List.filter_cons_of_neg (by simp [hwait, hwhose]),
          recordsOf_other (by simpa [hwait] using hwhose)]
        exact ih (h.passed hwait hwhose)

/-! ## 5. Reports -/

/-- Changes of the status are reported once each. Whatever a wait is answered and whatever happens
to it, it reports at the debug level the labels of the codes that it has read, those that follow
themselves once, and nothing else; it reports no more often than it reads. So does every wait at a
busy desk, however its steps fall in with what others do, and it reports the same when no other wait
takes a step. In moves that are no steps of waits nothing is reported at that level. -/
theorem status_changes_reported_once :
    (∀ (settings : CoordinatorSettings) (id : Int64) (answers : Nat → StatusAnswer)
      (signals : Signals) (events : List WaitEvent),
      let run := waitRun settings id answers signals events
      debugRecords run.notices = sightings id (codesRead answers run.answered) ∧
        (debugRecords run.notices).length ≤ run.answered ∧
        run.answered ≤ run.deeds.count .read) ∧
    (∀ (busy : BusyDesk) (move : Move), move.ofWait? = none →
      debugRecords (busy.apply move).step.notices = []) ∧
    ∀ (name : String) (start : BusyDesk) (moves : List Move),
      start.recordsOf name moves = start.recordsOf name (Move.withoutOthers name moves) ∧
        ∀ id first later, moves = first :: later → first.begins? = some (name, id) →
          start.desk.named name = [] →
          (∀ move ∈ later, move.begins?.map Prod.fst ≠ some name) →
          start.recordsOf name moves =
              sightings id ((start.answersTo name moves).filterMap codeOf?) ∧
            (start.recordsOf name moves).length ≤ (start.answersTo name moves).length := by
  refine ⟨?_, fun busy move hmove => debugRecords_of_ofWait? hmove busy, ?_⟩
  · intro settings id answers signals events run
    obtain ⟨hrecords, -, hreads⟩ := waitRun_reports settings id answers signals events
    refine ⟨hrecords, ?_, hreads ▸ Nat.le_add_right _ _⟩
    calc (debugRecords run.notices).length
        = (sightings id (codesRead answers run.answered)).length := congrArg _ hrecords
      _ ≤ (codesRead answers run.answered).length := length_sightings_le id _
      _ ≤ (List.range run.answered).length := List.length_filterMap_le _ _
      _ = run.answered := List.length_range
  · intro name start moves
    refine ⟨(SameTo.refl name start).recordsOf moves, ?_⟩
    rintro id first later rfl hfirst hfree hlater
    have hrecords := records_of_begins? hfree hfirst hlater
    refine ⟨hrecords, ?_⟩
    rw [hrecords]
    exact (length_sightings_le id _).trans (List.length_filterMap_le _ _)

/-- Two waits on a job: the first finds a status twice and is answered a last time after the
shutdown, which ends the second. -/
theorem status_changes_reported_once_of_two :
    let start : BusyDesk := ⟨{ store := { rows := [(1, ⟨1, 0, #[], ⟨0, 0⟩⟩)], lastId := 1 } }, []⟩
    let first : Move := .begin "first" 1 none
    let later : List Move := [.answer "first", .elapse "first",
      .whole (.wait "second" 1 (some false)), .answer "first", .whole (.table (.setCode 1 1)),
      .whole (.wake "second"), .elapse "first", .answer "first", .whole (.table (.setCode 1 2)),
      .elapse "first", .whole .shutDown, .answer "first"]
    first.begins? = some ("first", 1) ∧ start.desk.named "first" = [] ∧
      (∀ move ∈ later, move.begins?.map Prod.fst ≠ some "first") ∧
      start.recordsOf "first" (first :: later) =
        ["PENDING", "RUNNING", "SUCCEEDED"].map (sighting 1) ∧
      start.recordsOf "first" (Move.withoutOthers "first" (first :: later)) =
        ["PENDING", "RUNNING", "SUCCEEDED"].map (sighting 1) := by
  intro start first later
  have hfirst : first.begins? = some ("first", 1) := rfl
  have hfree : start.desk.named "first" = [] := rfl
  have hlater : ∀ move ∈ later, move.begins?.map Prod.fst ≠ some "first" := by
    simp [later, Move.begins?]
  have hcodes : (start.answersTo "first" (first :: later)).filterMap codeOf? = [0, 0, 1, 2] := by
    decide +kernel
  obtain ⟨halone, hwait⟩ := status_changes_reported_once.2.2 "first" start (first :: later)
  obtain ⟨hrecords, -⟩ := hwait 1 first later rfl hfirst hfree hlater
  have hseen : sightings 1 [0, 0, 1, 2] = ["PENDING", "RUNNING", "SUCCEEDED"].map (sighting 1) :=
    rfl
  rw [hcodes, hseen] at hrecords
  exact ⟨hfirst, hfree, hlater, hrecords, halone ▸ hrecords⟩

end BusyDesk

end JobDesk
