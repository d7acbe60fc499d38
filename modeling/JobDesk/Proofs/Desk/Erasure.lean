import JobDesk.Proofs.Desk.Interleaving

/-!
# Erasure — waiting and reading go unnoticed

In a run at a busy desk the steps of all waits and all calls that only read can be left out: what
the others are given back is the same, and so is the table in the end, but for the number of reads
that it has answered.
-/

namespace JobDesk

open Coordinator (Notice Outcome)
open MemoryStore (SameButReads)

/-! ## 1. Moves of waits and of readers -/

def Event.isReading : Event → Bool
  | .status _ | .fetch _ | .table (.fetchStatus _) | .table (.fetchJob _) => true
  | _ => false

namespace Move

/-- Whether a move is a step of a wait, or a reading, where the calls of readers read. -/
def isErased (readers : String → Bool) : Move → Bool
  | .whole event => event.isWait || event.isReading
  | .call caller _ | .effect caller => readers caller
  | .begin .. | .elapse _ | .answer _ | .fire _ | .look _ => true
  | .halt | .tick _ => false

/-- Whether a move is not a call of a reader, or one that only reads. -/
def isHonest (readers : String → Bool) : Move → Bool
  | .call caller errand => !readers caller || errand.event.isReading
  | _ => true

end Move

def Step.told (step : Step) : Answer × List Notice := (step.answer, step.notices)

/-- What those moves of a run are told that are not erased. -/
def BusyDesk.told (readers : String → Bool) (busy : BusyDesk) (moves : List Move) :
    List (Answer × List Notice) :=
  ((moves.zip (busy.steps moves)).filter fun moved => !moved.1.isErased readers).map (·.2.told)

namespace Desk

variable {α : Type} {desk : Desk} {event : Event} {errand : Errand}

/-! ## 2. Readings -/

theorem whenOpen_sameButReads {store : MemoryStore} {operation : α × MemoryStore}
    (h : SameButReads store operation.2) : SameButReads store (store.whenOpen operation).2 := by
  rcases store.whenOpen_spec operation with ⟨heq, -⟩ | ⟨heq, -⟩
  · rw [heq]
    exact .refl store
  · rw [heq]
    exact h

theorem whenRunning_sameButReads (c : Coordinator) {store : MemoryStore}
    {operation : α × MemoryStore} (notices : α → List Notice)
    (h : SameButReads store operation.2) :
    SameButReads store (c.whenRunning store fun _ =>
      Outcome.ofStore (store.whenOpen operation) notices).store := by
  unfold Coordinator.whenRunning
  split
  · exact .refl store
  · rw [Coordinator.store_ofStore]
    exact whenOpen_sameButReads h

theorem apply_alike_of_isReading (h : event.isReading = true) (desk : Desk) :
    desk.Alike (desk.apply event).desk := by
  cases event with
  | status id => exact ⟨rfl, whenRunning_sameButReads desk.coordinator _ (.counted desk.store _)⟩
  | fetch id => exact ⟨rfl, whenRunning_sameButReads desk.coordinator _ (.refl desk.store)⟩
  | table action =>
    cases action with
    | fetchStatus id => exact ⟨rfl, whenOpen_sameButReads (.counted desk.store _)⟩
    | fetchJob id => exact ⟨rfl, whenOpen_sameButReads (.refl desk.store)⟩
    | insert | setStatus | setStatusIf | setCode | delete | close => cases h
  | submit | cancel | cancelIfPending | shutDown | wait | wake | abandon | drop => cases h

theorem takeEffect_alike (h : errand.event.isReading = true) (desk : Desk) :
    desk.Alike (desk.takeEffect errand).desk := by
  refine ⟨rfl, ?_⟩
  obtain ⟨-, hread⟩ := apply_alike_of_isReading h desk.reopened
  unfold takeEffect
  simp only
  rw [hread]
  unfold SameButReads
  simp only [reopened, Bool.or_false]

end Desk

/-! ## 3. Two runs -/

variable {readers : String → Bool} {busy other : BusyDesk} {move : Move} {moves : List Move}

structure BusyDesk.Erases (readers : String → Bool) (busy other : BusyDesk) : Prop where
  desk : busy.desk.Alike other.desk
  calls : other.calls = busy.calls.filter fun call => !readers call.1
  reading : ∀ call ∈ busy.calls, readers call.1 = true → call.2.event.isReading = true

namespace BusyDesk

theorem callsBut_of_reader {caller : String} (h : readers caller = true) (busy : BusyDesk) :
    (busy.callsBut caller).filter (fun call => !readers call.1) =
      busy.calls.filter fun call => !readers call.1 := by
  rw [callsBut, List.filter_filter]
  refine List.filter_congr fun call _ => ?_
  by_cases hcaller : call.1 = caller
  · simp [hcaller, h]
  · simp [hcaller]

theorem lookup_filter {caller : String} (h : readers caller = false)
    (calls : List (String × Errand)) :
    (calls.filter fun call => !readers call.1).lookup caller = calls.lookup caller := by
  induction calls with
  | nil => rfl
  | cons call rest ih =>
    obtain ⟨name, errand⟩ := call
    by_cases hname : caller = name
    · subst hname
      rw [List.filter_cons_of_pos (by simp [h]), List.lookup_cons_self, List.lookup_cons_self]
    · have hother : (caller == name) = false := by simp [hname]
      cases hreader : readers name with
      | true => rw [List.filter_cons_of_neg (by simp [hreader]), ih, List.lookup_cons, hother]
      | false =>
        rw [List.filter_cons_of_pos (by simp [hreader]), List.lookup_cons, List.lookup_cons, hother]
        exact ih

/-- A move that is erased changes nothing that the others could notice. -/
theorem Erases.erased_alike (h : busy.Erases readers other) (hmove : move.isErased readers = true)
    (hhonest : move.isHonest readers = true) : busy.desk.Alike (busy.apply move).busy.desk := by
  have hgoes := busy.goes move
  generalize busy.apply move = moved at hgoes ⊢
  cases hgoes with
  | early | nothing => exact .refl busy.desk
  | whole =>
    rcases Bool.or_eq_true_iff.mp hmove with hwait | hreading
    · exact Desk.apply_alike_of_isWait hwait busy.desk
    · exact Desk.apply_alike_of_isReading hreading busy.desk
  | letIn => exact (busy.desk.letIn_alike _).symm
  | refused =>
    refine Desk.apply_alike_of_isReading ?_ busy.desk
    have hreader : readers _ = true := hmove
    simpa [Move.isHonest, hreader] using hhonest
  | effect hcall =>
    exact Desk.takeEffect_alike (h.reading _ (mem_of_lookup hcall) hmove) busy.desk
  | begin => exact busy.desk.ask_alike _
  | elapse name => exact busy.desk.elapse_alike name
  | answer name => exact busy.desk.answerRead_alike name
  | fire name => exact busy.desk.fire_alike name
  | look name => exact busy.desk.look_alike name
  | halt | tick => cases hmove

theorem Erases.reading_next (h : busy.Erases readers other)
    (hhonest : move.isHonest readers = true) :
    ∀ call ∈ (busy.apply move).calls, readers call.1 = true →
      call.2.event.isReading = true := by
  have hbut : ∀ caller, ∀ call ∈ busy.callsBut caller, readers call.1 = true →
      call.2.event.isReading = true :=
    fun caller call hmem => h.reading call (List.mem_filter.mp hmem).1
  have hgoes := busy.goes move
  generalize busy.apply move = moved at hgoes ⊢
  cases hgoes with
  | letIn =>
    intro call hmem hreader
    rcases List.mem_cons.mp hmem with rfl | hold
    · simpa [Move.isHonest, hreader] using hhonest
    · exact hbut _ call hold hreader
  | refused | effect => exact hbut _
  | early | whole | nothing | begin | elapse | answer | fire | halt | look | tick => exact h.reading

theorem erased_calls (hmove : move.isErased readers = true) :
    ((busy.apply move).calls.filter fun call => !readers call.1) =
      busy.calls.filter fun call => !readers call.1 := by
  have hgoes := busy.goes move
  generalize busy.apply move = moved at hgoes ⊢
  cases hgoes with
  | letIn =>
    have hreader : readers _ = true := hmove
    rw [List.filter_cons_of_neg (by simp [hreader])]
    exact callsBut_of_reader hmove busy
  | refused | effect => exact callsBut_of_reader hmove busy
  | early | whole | nothing | begin | elapse | answer | fire | halt | look | tick => rfl

theorem Erases.erased (h : busy.Erases readers other) (hmove : move.isErased readers = true)
    (hhonest : move.isHonest readers = true) : (busy.apply move).busy.Erases readers other where
  desk := (h.erased_alike hmove hhonest).symm.trans h.desk
  calls := h.calls.trans (erased_calls hmove).symm
  reading := h.reading_next hhonest

theorem Erases.filter_callsBut (h : busy.Erases readers other) (caller : String) :
    other.callsBut caller = (busy.callsBut caller).filter fun call => !readers call.1 := by
  rw [callsBut, callsBut, h.calls, List.filter_filter, List.filter_filter]
  exact List.filter_congr fun call _ => Bool.and_comm _ _

theorem admits_of_alike {desk after : Desk} (h : desk.Alike after) (errand : Errand) :
    after.admits errand = desk.admits errand := by
  rw [Desk.admits, Desk.admits, h.coordinator, h.store.isClosed]

theorem Erases.kept (h : busy.Erases readers other) (hmove : move.isErased readers = false)
    (hhonest : move.isHonest readers = true) :
    (busy.apply move).step.told = (other.apply move).step.told ∧
      (busy.apply move).busy.Erases readers (other.apply move).busy := by
  have hreading := h.reading_next hhonest
  -- What readers have under way was dealt with above; the step and the calls of others are left.
  suffices hsame : (busy.apply move).step.Alike (other.apply move).step ∧
      (other.apply move).calls = (busy.apply move).calls.filter fun call => !readers call.1 by
    obtain ⟨⟨hanswer, hnotices, hdesk⟩, hcalls⟩ := hsame
    exact ⟨Prod.ext hanswer hnotices, hdesk, hcalls, hreading⟩
  cases move with
  | whole event =>
    obtain ⟨hwait, -⟩ := Bool.or_eq_false_iff.mp hmove
    rw [apply_whole (Desk.isEarly_of_not_isWait hwait busy.desk),
      apply_whole (Desk.isEarly_of_not_isWait hwait other.desk)]
    exact ⟨h.desk.apply hwait, h.calls⟩
  | call caller errand =>
    have hadmits := admits_of_alike h.desk errand
    cases hadmitted : busy.desk.admits errand with
    | true =>
      rw [hadmitted] at hadmits
      rw [apply_call hadmitted, apply_call hadmits]
      refine ⟨⟨rfl, rfl, ?_⟩, ?_⟩
      · exact ((busy.desk.letIn_alike errand).trans h.desk).trans
          (other.desk.letIn_alike errand).symm
      · have hcaller : readers caller = false := hmove
        rw [List.filter_cons_of_pos (by simp [hcaller]), h.filter_callsBut]
    | false =>
      rw [hadmitted] at hadmits
      rw [apply_call_refused hadmitted, apply_call_refused hadmits]
      exact ⟨h.desk.apply (Desk.isWait_event errand), h.filter_callsBut caller⟩
  | effect caller =>
    have hlookup : other.calls.lookup caller = busy.calls.lookup caller := by
      rw [h.calls, lookup_filter hmove]
    cases hcall : busy.calls.lookup caller with
    | none =>
      rw [hcall] at hlookup
      rw [apply_effect_none hcall, apply_effect_none hlookup]
      exact ⟨⟨rfl, rfl, h.desk⟩, h.calls⟩
    | some errand =>
      rw [hcall] at hlookup
      rw [apply_effect hcall, apply_effect hlookup]
      exact ⟨h.desk.takeEffect errand, h.filter_callsBut caller⟩
  | halt =>
    simp only [BusyDesk.apply, Desk.halt, h.desk.coordinator]
    exact ⟨⟨rfl, rfl, rfl, h.desk.store⟩, h.calls⟩
  | tick now =>
    refine ⟨⟨rfl, rfl, h.desk.coordinator, ?_⟩, h.calls⟩
    exact h.desk.store.map ({ · with now := now }) fun _ _ => rfl
  | begin | elapse | answer | fire | look => cases hmove

/-! ## 4. Whole runs -/

theorem told_cons (readers : String → Bool) (busy : BusyDesk) (move : Move) (rest : List Move) :
    busy.told readers (move :: rest) =
      (if move.isErased readers then [] else [(busy.apply move).step.told]) ++
        (busy.apply move).busy.told readers rest := by
  rw [told, steps, List.zip_cons_cons]
  cases hmove : move.isErased readers with
  | true => rw [List.filter_cons_of_neg (by simp [hmove])]; rfl
  | false => rw [List.filter_cons_of_pos (by simp [hmove])]; rfl

def remaining (readers : String → Bool) (moves : List Move) : List Move :=
  moves.filter fun move => !move.isErased readers

/-- A run tells those who do not only read what it tells them without the others. -/
theorem Erases.run (h : busy.Erases readers other)
    (hhonest : ∀ move ∈ moves, move.isHonest readers = true) :
    busy.told readers moves = (other.steps (remaining readers moves)).map Step.told ∧
      (busy.after moves).Erases readers (other.after (remaining readers moves)) := by
  -- A move that is erased is taken by the first run alone, any other by both.
  induction moves generalizing busy other with
  | nil => exact ⟨rfl, h⟩
  | cons move rest ih =>
    obtain ⟨hfirst, hrest⟩ := List.forall_mem_cons.mp hhonest
    rw [told_cons, remaining]
    cases hmove : move.isErased readers with
    | true =>
      rw [List.filter_cons_of_neg (by simp [hmove])]
      exact ih (h.erased hmove hfirst) hrest
    | false =>
      rw [List.filter_cons_of_pos (by simp [hmove])]
      obtain ⟨htold, hnext⟩ := h.kept hmove hfirst
      obtain ⟨hlater, hlast⟩ := ih hnext hrest
      refine ⟨?_, hlast⟩
      show _ :: _ = _ :: _
      rw [htold, hlater]
      rfl

theorem erases_start (readers : String → Bool) (desk : Desk) :
    (⟨desk, []⟩ : BusyDesk).Erases readers ⟨desk, []⟩ :=
  ⟨.refl desk, rfl, fun _ hmem => absurd hmem List.not_mem_nil⟩

/-- Waiting and reading go unnoticed: however the steps of waits and the calls of those who only
read fall in with what the others do, the others are told what they are told without them, and the
coordinator and the table come to be the same but for the number of reads. Nothing else of the table
is changed by any of the moves that are left out. -/
theorem waits_unnoticed (readers : String → Bool) (desk : Desk) (moves : List Move)
    (hhonest : ∀ move ∈ moves, move.isHonest readers = true) :
    let start : BusyDesk := ⟨desk, []⟩
    let last := (start.after moves).desk
    let bare := (start.after (remaining readers moves)).desk
    start.told readers moves = (start.steps (remaining readers moves)).map Step.told ∧
      last.coordinator = bare.coordinator ∧ SameButReads last.store bare.store ∧
      ∀ before move later, moves = before ++ move :: later → move.isErased readers = true →
        let found := start.after before
        SameButReads found.desk.store (found.apply move).step.desk.store := by
  intro start last bare
  obtain ⟨htold, hlast⟩ := (erases_start readers desk).run hhonest
  refine ⟨htold, hlast.desk.coordinator, hlast.desk.store, ?_⟩
  intro before move later hmoves hmove
  obtain ⟨hearly, hrest⟩ := List.forall_mem_append.mp (hmoves ▸ hhonest)
  obtain ⟨-, hfound⟩ := (erases_start readers desk).run hearly
  exact (hfound.erased_alike hmove (List.forall_mem_cons.mp hrest).1).store

/-- A wait that is dropped and a single read are nothing to a client whose job is cancelled. -/
theorem waits_unnoticed_by_client :
    let start : BusyDesk := {}
    let moves : List Move := [.call "client" (.submit (.object [])), .begin "wait" 1 none,
      .effect "client", .call "reader" (.status 1), .answer "wait", .whole (.drop "wait"),
      .effect "reader", .whole (.cancelIfPending 1)]
    (∀ move ∈ moves, move.isHonest (· == "reader") = true) ∧
      start.told (· == "reader") moves = (start.steps [.call "client" (.submit (.object [])),
        .effect "client", .whole (.cancelIfPending 1)]).map Step.told := by
  intro start moves
  have hhonest : ∀ move ∈ moves, move.isHonest (· == "reader") = true := by
    simp [moves, Move.isHonest, Errand.event, Event.isReading]
  exact ⟨hhonest, (waits_unnoticed (· == "reader") {} moves hhonest).1⟩

end BusyDesk

end JobDesk
