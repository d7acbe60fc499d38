import JobDesk.Proofs.Coordinator.Calls
import JobDesk.Proofs.Desk.Interleaving

/-!
# Shutdown — a desk whose coordinator has been shut down

Nothing takes a shutdown back.  From then on calls of the coordinator are refused and waits end
before they read; of the waits that are left each is at a read that it has asked for before, or
sleeps and has not looked yet, and none asks for another read.
-/

namespace JobDesk

open Coordinator (Notice Signal Signals WaitState)

/-! ## 1. Waits that a signal has reached -/

theorem Coordinator.takeAnswer_of_fired (waiting : WaitingSet) (id : Int64) {signals : Signals}
    (h : signals.fired = true) (lastSeen : Option Int16) (answer : StatusAnswer) :
    ∃ result, (Coordinator.takeAnswer waiting id signals lastSeen answer).1 = .ended result := by
  cases hgoes : Coordinator.goesOn waiting answer with
  | true =>
    obtain ⟨code, hsleep⟩ := @Coordinator.takeAnswer_of_goesOn id waiting signals lastSeen _ hgoes
    exact ⟨_, hsleep.trans (Coordinator.beginSleep_of_fired h)⟩
  | false => exact ⟨_, Coordinator.takeAnswer_of_not_goesOn hgoes⟩

/-- A wait that looks at its signals when one has fired stays in its state or ends. -/
theorem Coordinator.onSignal_of_fired (id : Int64) {signals : Signals} (h : signals.fired = true)
    (state : WaitState) :
    state.onSignal id signals = state ∨ ∃ result, state.onSignal id signals = .ended result := by
  cases state with
  | sleeping lastSeen => exact .inr ⟨_, Coordinator.beginSleep_of_fired h⟩
  | reading lastSeen | ended result => exact .inl rfl

namespace Desk

variable {desk : Desk} {waiter : Waiter} {name : String}

def Within (after desk : Desk) : Prop :=
  ∀ waiter ∈ after.waiters, ∃ old ∈ desk.waiters, old.name = waiter.name ∧ old.state = waiter.state

theorem within_of_waiters {after : Desk} (h : ∀ waiter ∈ after.waiters, waiter ∈ desk.waiters) :
    after.Within desk :=
  fun waiter hmem => ⟨waiter, h waiter hmem, rfl, rfl⟩

theorem within_refl (desk : Desk) : desk.Within desk := within_of_waiters fun _ hmem => hmem

theorem putBack_ended {result : Except JobError Unit} (h : waiter.state = .ended result)
    (notices : List Notice) :
    desk.putBack waiter notices =
      { answer := .done, desk := desk, notices := notices
        ended := [⟨waiter.name, waiter.id, result⟩] } := by
  rw [putBack, h]

theorem ask_ended {result : Except JobError Unit} (h : waiter.state = .ended result) :
    desk.ask waiter = desk.putBack waiter [] := by
  unfold ask
  split
  · rw [read, h]
    simp only [WaitState.read, ← h]
  · rw [h]

theorem read_ended {result : Except JobError Unit} (h : waiter.state = .ended result) :
    desk.read waiter = desk.putBack waiter [] := by
  rw [read, h]
  simp only [WaitState.read, ← h]

def turnedAway (desk : Desk) (name : String) (id : Int64) (token : Option Bool) : Step :=
  { answer := .done
    desk := desk
    ended := [⟨name, id, .error (if token = some true then .abandoned id else .shutDown)⟩] }

theorem within_without (desk : Desk) (name : String) : (desk.without name).Within desk :=
  within_of_waiters fun _ hmem => mem_without hmem

/-- A wait that is put back in the state in which it was taken, or at its end, is no new one. -/
theorem within_putBack (back : Waiter) (hhead : (desk.named name).head? = some waiter)
    (hname : back.name = waiter.name)
    (hstate : back.state = waiter.state ∨ ∃ result, back.state = .ended result)
    (notices : List Notice) : ((desk.without name).putBack back notices).desk.Within desk := by
  intro other hmem
  rcases hstate with hsame | ⟨result, hended⟩
  · rcases mem_putBack hmem with hold | rfl
    · exact within_without desk name other hold
    · exact ⟨waiter, (List.mem_filter.mp (List.mem_of_mem_head? hhead)).1, hname.symm, hsame.symm⟩
  · rw [putBack_ended hended] at hmem
    exact within_without desk name other hmem

theorem drop_within (desk : Desk) (name : String) :
    (desk.apply (.drop name)).desk.Within desk := by
  simp only [apply, take?_eq]
  cases (desk.named name).head? with
  | none => exact within_refl desk
  | some waiter => exact within_without desk name

theorem fire_within (desk : Desk) (name : String) : (desk.fire name).desk.Within desk := by
  unfold fire
  rw [take?_eq]
  cases hhead : (desk.named name).head? with
  | none => exact within_refl desk
  | some waiter =>
    exact within_putBack { waiter with token := waiter.hasToken } hhead rfl (.inl rfl) []

theorem fire_store (desk : Desk) (name : String) :
    (desk.fire name).desk.store = desk.store := by
  unfold fire
  rw [take?_eq]
  cases (desk.named name).head? with
  | none => rfl
  | some waiter => exact putBack_store _ _ _

theorem look_store (desk : Desk) (name : String) :
    (desk.look name).desk.store = desk.store := by
  unfold look
  rw [take?_eq]
  cases (desk.named name).head? with
  | none => rfl
  | some waiter => exact putBack_store _ _ _

/-! ## 2. Desks that have been shut down -/

section

variable (h : desk.coordinator.isShutDown = true)

include h

theorem fired_signals (waiter : Waiter) : (desk.signals waiter).fired = true := by
  rw [signals, h]
  exact Bool.or_true _

theorem begin_turnedAway (name : String) (id : Int64) (token : Option Bool) (pick : Signal) :
    let waiter : Waiter := ⟨name, id, token.getD false, token.isSome, pick,
      Coordinator.beginRead id ⟨token.getD false, desk.coordinator.isShutDown, pick⟩ none⟩
    desk.ask waiter = desk.turnedAway name id token ∧
      desk.read waiter = desk.turnedAway name id token := by
  intro waiter
  have hstate : waiter.state =
      .ended (.error (if token = some true then .abandoned id else .shutDown)) := by
    show Coordinator.beginRead id ⟨token.getD false, desk.coordinator.isShutDown, pick⟩ none = _
    rw [h, Coordinator.beginRead_of_fired (by simp [Signals.fired])]
    -- A token that has fired is found before the shutdown is.
    cases token with
    | none => rfl
    | some fired => cases fired <;> rfl
  rw [ask_ended hstate, read_ended hstate, putBack_ended hstate]
  exact ⟨rfl, rfl⟩

theorem elapse_shut (name : String) :
    (desk.elapse name).desk = desk ∨ (desk.elapse name).desk = desk.without name := by
  unfold elapse
  rw [take?_eq]
  cases (desk.named name).head? with
  | none => exact .inl rfl
  | some waiter =>
    simp only [Option.map_some]
    split
    · rename_i lastSeen hsleeping
      right
      have hended := @Coordinator.beginRead_of_fired waiter.id _ lastSeen (fired_signals h waiter)
      rw [hsleeping, WaitState.onTimer, hended, ask_ended rfl, putBack_ended rfl]
    · exact .inl rfl

theorem wake_shut (hearly : desk.isEarly (.wake name) = false) :
    (desk.apply (.wake name)).desk = desk ∨ (desk.apply (.wake name)).desk = desk.without name := by
  cases hhead : (desk.named name).head? with
  | none =>
    left
    simp only [apply, take?_eq, hhead]
    rfl
  | some waiter =>
    right
    have hended :
        ∃ result, waiter.state.onTimer waiter.id (desk.signals waiter) = .ended result := by
      cases hstate : waiter.state with
      | sleeping lastSeen => exact ⟨_, Coordinator.beginRead_of_fired (fired_signals h waiter)⟩
      | ended result => exact ⟨result, rfl⟩
      | reading lastSeen =>
        have hmem := (List.mem_filter.mp (List.mem_of_mem_head? hhead)).1
        have hnot := List.any_eq_false.mp hearly waiter hmem
        simp [Event.wakes, name_of_head? hhead, hstate, WaitState.isReading] at hnot
    obtain ⟨result, hended⟩ := hended
    rw [apply_wake hhead, hended, read_ended rfl, putBack_ended rfl]

theorem answer_shut (name : String) :
    (desk.answerRead name).desk = desk ∨ (desk.answerRead name).desk = desk.without name := by
  unfold answerRead
  rw [take?_eq]
  cases (desk.named name).head? with
  | none => exact .inl rfl
  | some waiter =>
    simp only [Option.map_some]
    split
    · rename_i lastSeen _
      obtain ⟨result, hended⟩ := Coordinator.takeAnswer_of_fired
        (desk.without name).coordinator.settings.waiting waiter.id (fired_signals h waiter) lastSeen
        (.ok ((desk.without name).store.status? waiter.id))
      exact .inr (by rw [putBack_ended hended])
    · exact .inl rfl

theorem look_within (name : String) : (desk.look name).desk.Within desk := by
  unfold look
  rw [take?_eq]
  cases hhead : (desk.named name).head? with
  | none => exact within_refl desk
  | some waiter =>
    exact within_putBack (desk.signal waiter) hhead rfl
      (Coordinator.onSignal_of_fired waiter.id (fired_signals h waiter) waiter.state) []

theorem abandon_within (name : String) : (desk.apply (.abandon name)).desk.Within desk := by
  cases hhead : (desk.named name).head? with
  | none =>
    simp only [apply, take?_eq, hhead]
    exact within_refl desk
  | some waiter =>
    have hfired := fired_signals h { waiter with token := waiter.hasToken }
    rw [apply_abandon hhead]
    exact within_putBack (desk.signal { waiter with token := waiter.hasToken }) hhead rfl
      (Coordinator.onSignal_of_fired waiter.id hfired waiter.state) []

theorem halt_idle : desk.halt = desk.idle := by
  have hcoordinator : desk.coordinator.shutDown = (desk.coordinator, []) := if_pos h
  rw [halt, hcoordinator]
  rfl

end

end Desk

theorem Coordinator.isShutDown_shutDown (c : Coordinator) : c.shutDown.1.isShutDown = true := by
  unfold Coordinator.shutDown
  split
  · assumption
  · rfl

theorem Desk.isShutDown_apply_shutDown (desk : Desk) :
    (desk.apply .shutDown).desk.coordinator.isShutDown = true := by
  simp only [Desk.apply, Desk.shutDown]
  split
  · assumption
  · exact desk.coordinator.isShutDown_shutDown

/-! ## 3. Moves -/

def Move.isOfWait : Move → Bool
  | .whole event => event.isWait
  | .begin .. | .elapse _ | .answer _ | .fire _ | .look _ => true
  | .call .. | .effect _ | .halt | .tick _ => false

def Move.isShutDown : Move → Bool
  | .whole .shutDown | .halt => true
  | _ => false

namespace BusyDesk

variable {busy : BusyDesk} {move : Move} {moves : List Move}

theorem within_of_without {after : Desk} {name : String}
    (h : after = busy.desk ∨ after = busy.desk.without name) : after.Within busy.desk := by
  rcases h with rfl | rfl
  · exact Desk.within_refl busy.desk
  · exact Desk.within_without busy.desk name

theorem store_of_without {after : Desk} {name : String}
    (h : after = busy.desk ∨ after = busy.desk.without name) : after.store = busy.desk.store := by
  rcases h with rfl | rfl <;> rfl

/-- Once the coordinator has been shut down, only waits are left that were there before, in the
states in which they were. -/
theorem within_of_shutDown (h : busy.desk.coordinator.isShutDown = true) (move : Move) :
    (busy.apply move).step.desk.Within busy.desk := by
  have hgoes := busy.goes move
  generalize busy.apply move = moved at hgoes ⊢
  cases hgoes with
  | @whole event hearly =>
    cases event with
    | table | submit | cancel | cancelIfPending | status | fetch =>
      exact Desk.within_refl busy.desk
    | shutDown =>
      rw [Desk.shutDown_again h]
      exact Desk.within_refl busy.desk
    | wait name id token pick =>
      have hbegin := (Desk.begin_turnedAway h name id token pick).2
      show (busy.desk.read _).desk.Within busy.desk
      rw [hbegin]
      exact Desk.within_refl busy.desk
    | wake name => exact within_of_without (Desk.wake_shut h hearly)
    | abandon name => exact Desk.abandon_within h name
    | drop name => exact busy.desk.drop_within name
  | refused =>
    rw [Desk.apply_errand]
    exact Desk.within_refl busy.desk
  | begin name id token pick =>
    have hbegin := (Desk.begin_turnedAway h name id token pick).1
    show (busy.desk.ask _).desk.Within busy.desk
    rw [hbegin]
    exact Desk.within_refl busy.desk
  | elapse name => exact within_of_without (Desk.elapse_shut h name)
  | answer name => exact within_of_without (Desk.answer_shut h name)
  | fire name => exact busy.desk.fire_within name
  | look name => exact Desk.look_within h name
  | halt =>
    rw [Desk.halt_idle h]
    exact Desk.within_refl busy.desk
  | early | letIn | effect | nothing | tick => exact Desk.within_refl busy.desk

/-- What a wait does to a table is nothing once the coordinator has been shut down. -/
theorem store_of_shutDown (h : busy.desk.coordinator.isShutDown = true)
    (hmove : move.isOfWait = true) :
    (busy.apply move).step.desk.store = busy.desk.store := by
  have hgoes := busy.goes move
  generalize busy.apply move = moved at hgoes ⊢
  cases hgoes with
  | early => rfl
  | @whole event hearly =>
    cases event with
    | wait name id token pick =>
      have hbegin := (Desk.begin_turnedAway h name id token pick).2
      show (busy.desk.read _).desk.store = busy.desk.store
      rw [hbegin]
      rfl
    | wake name => exact store_of_without (Desk.wake_shut h hearly)
    | abandon name => exact busy.desk.abandon_store name
    | drop name => exact busy.desk.drop_store name
    | table | submit | cancel | cancelIfPending | status | fetch | shutDown => cases hmove
  | begin name id token pick =>
    have hbegin := (Desk.begin_turnedAway h name id token pick).1
    show (busy.desk.ask _).desk.store = busy.desk.store
    rw [hbegin]
    rfl
  | elapse name => exact store_of_without (Desk.elapse_shut h name)
  | answer name => exact store_of_without (Desk.answer_shut h name)
  | fire name => exact busy.desk.fire_store name
  | look name => exact busy.desk.look_store name
  | letIn | refused | effect | nothing | halt | tick => cases hmove

/-! ## 4. Runs -/

theorem apply_shutDown (busy : BusyDesk) :
    busy.apply (.whole .shutDown) = ⟨busy.desk.apply .shutDown, busy.calls⟩ :=
  apply_whole (Desk.isEarly_of_not_isWait rfl busy.desk)

theorem apply_coordinator (h : move.isShutDown = false) (busy : BusyDesk) :
    (busy.apply move).busy.desk.coordinator = busy.desk.coordinator := by
  have hgoes := busy.goes move
  generalize busy.apply move = moved at hgoes ⊢
  cases hgoes with
  | whole =>
    refine Desk.apply_coordinator ?_ busy.desk
    rintro rfl
    cases h
  | refused => rw [Moved.busy, Desk.apply_errand]
  | begin => exact (busy.desk.ask_alike _).coordinator.symm
  | elapse name => exact (busy.desk.elapse_alike name).coordinator.symm
  | answer name => exact (busy.desk.answerRead_alike name).coordinator.symm
  | fire name => exact (busy.desk.fire_alike name).coordinator.symm
  | look name => exact (busy.desk.look_alike name).coordinator.symm
  | halt => cases h
  | early | letIn | effect | nothing | tick => rfl

theorem isShutDown_of_shutDown (h : move.isShutDown = true) (busy : BusyDesk) :
    (busy.apply move).busy.desk.coordinator.isShutDown = true := by
  unfold Move.isShutDown at h
  split at h
  · rw [apply_shutDown]
    exact busy.desk.isShutDown_apply_shutDown
  · exact busy.desk.coordinator.isShutDown_shutDown
  · cases h

/-- Nothing but a shutdown changes whether the coordinator is shut down, and nothing takes it back.
-/
theorem isShutDown_apply (busy : BusyDesk) (move : Move) :
    (busy.apply move).busy.desk.coordinator.isShutDown =
      (busy.desk.coordinator.isShutDown || move.isShutDown) := by
  cases hmove : move.isShutDown with
  | true => rw [isShutDown_of_shutDown hmove, Bool.or_true]
  | false => rw [apply_coordinator hmove, Bool.or_false]

theorem isShutDown_after (busy : BusyDesk) (moves : List Move) :
    (busy.after moves).desk.coordinator.isShutDown =
      (busy.desk.coordinator.isShutDown || moves.any Move.isShutDown) := by
  induction moves generalizing busy with
  | nil => exact (Bool.or_false _).symm
  | cons move rest ih =>
    rw [after, List.foldl_cons, List.any_cons, ← Bool.or_assoc, ← isShutDown_apply]
    exact ih (busy.apply move).busy

/-- What is found at a busy desk whose coordinator has been shut down: calls of the coordinator are
refused, and leave the desk as it is; so do waits that begin, which end at once. A wait does nothing
to the table, and none asks for a read. To shut down once more does nothing. -/
structure IsShut (busy : BusyDesk) : Prop where
  called : ∀ caller (errand : Errand), errand.needsCoordinator = true →
    (busy.apply (.call caller errand)).step = { answer := .refused .shutDown, desk := busy.desk }
  refused : ∀ errand : Errand, errand.needsCoordinator = true →
    (busy.apply (.whole errand.event)).step = { answer := .refused .shutDown, desk := busy.desk }
  begun : ∀ name id token pick,
    (busy.apply (.begin name id token pick)).step = busy.desk.turnedAway name id token
  waited : ∀ name id token pick,
    (busy.apply (.whole (.wait name id token pick))).step = busy.desk.turnedAway name id token
  store : ∀ move, move.isOfWait = true → (busy.apply move).step.desk.store = busy.desk.store
  reads : ∀ move, (busy.apply move).step.desk.Within busy.desk
  again : ∀ move, move.isShutDown = true → busy.apply move = ⟨busy.desk.idle, busy.calls⟩

theorem apply_refused (h : busy.desk.coordinator.isShutDown = true) {errand : Errand}
    (hneeds : errand.needsCoordinator = true) :
    busy.desk.apply errand.event = { answer := .refused .shutDown, desk := busy.desk } := by
  have hrefuses := Coordinator.refuses_of_shutDown h busy.desk.store
  cases errand with
  | table action => cases hneeds
  | submit config => rw [Errand.event, Desk.apply, hrefuses.submit]; rfl
  | cancel id => rw [Errand.event, Desk.apply, hrefuses.cancel]; rfl
  | cancelIfPending id => rw [Errand.event, Desk.apply, hrefuses.cancelIfPending]; rfl
  | status id => rw [Errand.event, Desk.apply, hrefuses.status]; rfl
  | fetch id => rw [Errand.event, Desk.apply, hrefuses.fetch]; rfl

theorem isShut_of_shutDown (h : busy.desk.coordinator.isShutDown = true) : busy.IsShut where
  called caller errand hneeds := by
    have hadmits : busy.desk.admits errand = false := by
      rw [Desk.admits, hneeds, h]
      exact Bool.and_false _
    rw [apply_call_refused hadmits]
    exact apply_refused h hneeds
  refused errand hneeds := by
    rw [apply_whole (Desk.isEarly_of_not_isWait (Desk.isWait_event errand) busy.desk)]
    exact apply_refused h hneeds
  begun name id token pick := (Desk.begin_turnedAway h name id token pick).1
  waited name id token pick := by
    have hearly : busy.desk.isEarly (.wait name id token pick) = false :=
      List.any_eq_false.mpr fun _ _ hboth => by cases hboth
    rw [apply_whole hearly]
    exact (Desk.begin_turnedAway h name id token pick).2
  store move := store_of_shutDown h
  reads := within_of_shutDown h
  again move hmove := by
    unfold Move.isShutDown at hmove
    split at hmove
    · rw [apply_shutDown, Desk.shutDown_again h]
      rfl
    · rw [BusyDesk.apply, Desk.halt_idle h]
    · cases hmove

/-- A coordinator that ran at first has been shut down if and only if somebody has shut it down, and
from then on this is found. -/
theorem isShut_after (settings : CoordinatorSettings) (store : MemoryStore) (waiters : List Waiter)
    (moves : List Move) :
    let busy := (⟨⟨{ settings := settings }, store, waiters⟩, []⟩ : BusyDesk).after moves
    (busy.desk.coordinator.isShutDown = true ↔ ∃ move ∈ moves, move.isShutDown = true) ∧
      ((∃ move ∈ moves, move.isShutDown = true) → busy.IsShut) := by
  intro busy
  have hshut : busy.desk.coordinator.isShutDown = true ↔
      ∃ move ∈ moves, move.isShutDown = true := by
    rw [isShutDown_after, Bool.false_or, List.any_eq_true]
  exact ⟨hshut, fun hmoves => isShut_of_shutDown (hshut.mpr hmoves)⟩

end BusyDesk

end JobDesk
