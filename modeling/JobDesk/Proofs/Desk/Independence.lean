import Mathlib.Data.List.Sort
import JobDesk.Proofs.Desk.OneJob

/-!
# Independence — what is done about one job is nothing to another

Where no job is made, those at work on a job could do without all the moves that are about other
jobs: they are told the same and find the same row in the end.  So it makes no difference in which
order moves about different jobs are made.
-/

namespace JobDesk

open Coordinator (Notice)
open MemoryStore (Sound)

/-! ## 1. Moves about a job -/

namespace Move

def isElsewhere (roster : Roster) (id : Int64) : Move → Bool
  | .whole event => (event.job? roster).any (· != id)
  | .call _ errand => (errand.event.job? roster).any (· != id)
  | .effect name | .elapse name | .answer name | .fire name | .look name =>
    roster.isElsewhere id name
  | .begin _ key _ _ => key != id
  | .halt => false
  | .tick _ => true

def keepsTo (roster : Roster) : Move → Bool
  | .whole event => event.keepsTo roster
  | .call caller errand =>
    errand.event.keepsTo roster && roster caller == errand.event.job? roster
  | .begin name id _ _ => roster name == some id
  | .effect _ | .elapse _ | .answer _ | .fire _ | .halt | .look _ | .tick _ => true

/-- The moves of a run that are about a job or about all of them. -/
def onJob (roster : Roster) (id : Int64) (moves : List Move) : List Move :=
  moves.filter fun move => !move.isElsewhere roster id

end Move

def BusyDesk.toldOn (roster : Roster) (id : Int64) (busy : BusyDesk) (moves : List Move) :
    List (Answer × List Notice × List EndedWait) :=
  ((moves.zip (busy.steps moves)).filter fun moved => !moved.1.isElsewhere roster id).map
    (·.2.toldOn id)

namespace BusyDesk

variable {roster : Roster} {busy other : BusyDesk} {id : Int64} {move : Move} {moves : List Move}

/-- The calls and the waits at a busy desk keep to the roster. -/
structure KeepsTo (roster : Roster) (busy : BusyDesk) : Prop where
  waits : busy.desk.KeepsTo roster
  calls : ∀ call ∈ busy.calls, call.2.event.keepsTo roster = true ∧
    roster call.1 = call.2.event.job? roster

structure SameFor (roster : Roster) (id : Int64) (busy other : BusyDesk) : Prop where
  desk : busy.desk.SameFor id other.desk
  calls : (busy.calls.filter fun call => !roster.isElsewhere id call.1) =
    other.calls.filter fun call => !roster.isElsewhere id call.1

theorem SameFor.refl (roster : Roster) (id : Int64) (busy : BusyDesk) :
    busy.SameFor roster id busy :=
  ⟨.refl id busy.desk, rfl⟩

theorem SameFor.symm (h : busy.SameFor roster id other) : other.SameFor roster id busy :=
  ⟨h.desk.symm, h.calls.symm⟩

theorem SameFor.trans {third : BusyDesk} (h : busy.SameFor roster id other)
    (hnext : other.SameFor roster id third) : busy.SameFor roster id third :=
  ⟨h.desk.trans hnext.desk, h.calls.trans hnext.calls⟩

/-! ## 2. One move -/

/-- Every move of the roster leaves behind calls and waits that keep to it. -/
theorem KeepsTo.apply (h : busy.KeepsTo roster) (hmove : move.keepsTo roster = true) :
    (busy.apply move).busy.KeepsTo roster := by
  have hbut : ∀ caller, ∀ call ∈ busy.callsBut caller, call.2.event.keepsTo roster = true ∧
      roster call.1 = call.2.event.job? roster :=
    fun caller call hmem => h.calls call (List.mem_filter.mp hmem).1
  have hgoes := busy.goes move
  generalize busy.apply move = moved at hgoes ⊢
  cases hgoes with
  | early | nothing | tick => exact ⟨h.waits, h.calls⟩
  | whole => exact ⟨h.waits.apply hmove, h.calls⟩
  | letIn =>
    obtain ⟨herrand, hcaller⟩ := Bool.and_eq_true_iff.mp hmove
    refine ⟨h.waits, fun call hmem => ?_⟩
    rcases List.mem_cons.mp hmem with rfl | hold
    · exact ⟨herrand, eq_of_beq hcaller⟩
    · exact hbut _ call hold
  | refused => exact ⟨h.waits.apply (Bool.and_eq_true_iff.mp hmove).1, hbut _⟩
  | effect => exact ⟨h.waits, hbut _⟩
  | begin => exact ⟨(busy.desk.returns_ask _).keepsTo h.waits (eq_of_beq hmove), h.calls⟩
  | elapse name => exact ⟨(busy.desk.serves_elapse name).keepsTo h.waits, h.calls⟩
  | answer name => exact ⟨(busy.desk.serves_answerRead name).keepsTo h.waits, h.calls⟩
  | fire name => exact ⟨(busy.desk.serves_fire name).keepsTo h.waits, h.calls⟩
  | halt => exact ⟨h.waits, h.calls⟩
  | look name => exact ⟨(busy.desk.serves_look name).keepsTo h.waits, h.calls⟩

theorem sameFor_apply (h : busy.KeepsTo roster) (hmove : move.keepsTo roster = true)
    (helse : move.isElsewhere roster id = true) :
    busy.SameFor roster id (busy.apply move).busy := by
  have hbut : ∀ caller, roster.isElsewhere id caller = true →
      (busy.calls.filter fun call => !roster.isElsewhere id call.1) =
        (busy.callsBut caller).filter fun call => !roster.isElsewhere id call.1 :=
    fun caller hcaller => (@callsBut_of_reader (roster.isElsewhere id) caller hcaller busy).symm
  have hgoes := busy.goes move
  generalize busy.apply move = moved at hgoes ⊢
  cases hgoes with
  | early | nothing => exact .refl roster id busy
  | whole => exact ⟨Desk.sameFor_apply h.waits helse, rfl⟩
  | @letIn caller errand =>
    have hjob := eq_of_beq (Bool.and_eq_true_iff.mp hmove).2
    -- The caller is somebody elsewhere, whose calls are no part of the comparison.
    have hcaller : roster.isElsewhere id caller = true := by
      rw [Roster.isElsewhere, hjob]
      exact helse
    refine ⟨⟨rfl, ⟨rfl, rfl⟩, rfl⟩, (hbut caller hcaller).trans ?_⟩
    exact (List.filter_cons_of_neg (by simp [hcaller])).symm
  | @refused caller errand =>
    have hjob := eq_of_beq (Bool.and_eq_true_iff.mp hmove).2
    have hcaller : roster.isElsewhere id caller = true := by
      rw [Roster.isElsewhere, hjob]
      exact helse
    exact ⟨Desk.sameFor_apply h.waits helse, hbut caller hcaller⟩
  | @effect caller errand hcall =>
    obtain ⟨-, hjob⟩ := h.calls _ (mem_of_lookup hcall)
    refine ⟨Desk.sameFor_takeEffect h.waits ?_, hbut caller helse⟩
    rw [← hjob]
    exact helse
  | begin name key =>
    have hkey : key ≠ id := by simpa [Move.isElsewhere] using helse
    refine ⟨Desk.sameFor_of_alike (busy.desk.ask_alike _) ?_, rfl⟩
    exact (busy.desk.returns_ask _).waiters_filter hkey
  | elapse name =>
    refine ⟨Desk.sameFor_of_alike (busy.desk.elapse_alike name) ?_, rfl⟩
    exact (busy.desk.serves_elapse name).waiters_filter h.waits helse
  | answer name =>
    refine ⟨Desk.sameFor_of_alike (busy.desk.answerRead_alike name) ?_, rfl⟩
    exact (busy.desk.serves_answerRead name).waiters_filter h.waits helse
  | fire name =>
    refine ⟨Desk.sameFor_of_alike (busy.desk.fire_alike name) ?_, rfl⟩
    exact (busy.desk.serves_fire name).waiters_filter h.waits helse
  | look name =>
    refine ⟨Desk.sameFor_of_alike (busy.desk.look_alike name) ?_, rfl⟩
    exact (busy.desk.serves_look name).waiters_filter h.waits helse
  | halt => cases helse
  | tick => exact ⟨⟨rfl, ⟨rfl, rfl⟩, rfl⟩, rfl⟩

theorem SameFor.callsBut (h : busy.SameFor roster id other) (caller : String) :
    ((busy.callsBut caller).filter fun call => !roster.isElsewhere id call.1) =
      (other.callsBut caller).filter fun call => !roster.isElsewhere id call.1 := by
  rw [BusyDesk.callsBut, BusyDesk.callsBut, List.filter_comm, h.calls, List.filter_comm]

/-- A move about a job goes in the same way at two desks that are the same to those at work on it.
-/
theorem SameFor.apply (h : busy.SameFor roster id other) (hbusy : busy.KeepsTo roster)
    (hother : other.KeepsTo roster) (hmove : move.keepsTo roster = true)
    (hhere : move.isElsewhere roster id = false) :
    (busy.apply move).step.toldOn id = (other.apply move).step.toldOn id ∧
      (busy.apply move).busy.SameFor roster id (other.apply move).busy := by
  suffices hsame : (busy.apply move).step.SameFor id (other.apply move).step ∧
      ((busy.apply move).calls.filter fun call => !roster.isElsewhere id call.1) =
        (other.apply move).calls.filter fun call => !roster.isElsewhere id call.1 from
    ⟨hsame.1.told, hsame.1.desk, hsame.2⟩
  cases move with
  | whole event =>
    have hearly := h.desk.isEarly hbusy.waits hother.waits hhere
    cases htime : busy.desk.isEarly event with
    | true =>
      rw [apply_early htime, apply_early (hearly ▸ htime)]
      exact ⟨h.desk.idle, h.calls⟩
    | false =>
      rw [apply_whole htime, apply_whole (hearly ▸ htime)]
      exact ⟨h.desk.apply hbusy.waits hother.waits hmove hhere, h.calls⟩
  | call caller errand =>
    obtain ⟨herrand, hcaller⟩ := Bool.and_eq_true_iff.mp hmove
    -- What is looked at on the way in, closing and shutdown, is the same at both desks.
    have hadmits : busy.desk.admits errand = other.desk.admits errand := by
      rw [Desk.admits, Desk.admits, h.desk.store.isClosed, h.desk.coordinator]
    cases hadmitted : busy.desk.admits errand with
    | true =>
      rw [apply_call hadmitted, apply_call (hadmits ▸ hadmitted)]
      have hkept : roster.isElsewhere id caller = false := by
        rw [Roster.isElsewhere, eq_of_beq hcaller]
        exact hhere
      refine ⟨⟨rfl, h.desk.coordinator, ⟨h.desk.store.isClosed, h.desk.store.job?⟩,
        h.desk.waiters⟩, ?_⟩
      rw [List.filter_cons_of_pos (by simp [hkept]), List.filter_cons_of_pos (by simp [hkept]),
        h.callsBut]
    | false =>
      rw [apply_call_refused hadmitted, apply_call_refused (hadmits ▸ hadmitted)]
      exact ⟨h.desk.apply hbusy.waits hother.waits herrand hhere, h.callsBut caller⟩
  | effect caller =>
    -- A caller at work on the job finds the same call under way.
    have hlookup : busy.calls.lookup caller = other.calls.lookup caller := by
      rw [← @lookup_filter (roster.isElsewhere id) caller hhere, h.calls, lookup_filter hhere]
    cases hcall : busy.calls.lookup caller with
    | none =>
      rw [apply_effect_none hcall, apply_effect_none (hlookup ▸ hcall)]
      exact ⟨h.desk.idle, h.calls⟩
    | some errand =>
      obtain ⟨herrand, hjob⟩ := hbusy.calls _ (mem_of_lookup hcall)
      rw [apply_effect hcall, apply_effect (hlookup ▸ hcall)]
      refine ⟨h.desk.takeEffect hbusy.waits hother.waits herrand ?_, h.callsBut caller⟩
      rw [← hjob]
      exact hhere
  | begin name key =>
    have hkey : key = id := by simpa [Move.isElsewhere] using hhere
    simp only [BusyDesk.apply, h.desk.coordinator]
    exact ⟨h.desk.ask hkey, h.calls⟩
  | elapse name => exact ⟨h.desk.elapse hbusy.waits hother.waits hhere, h.calls⟩
  | answer name => exact ⟨h.desk.answerRead hbusy.waits hother.waits hhere, h.calls⟩
  | fire name => exact ⟨h.desk.fire hbusy.waits hother.waits hhere, h.calls⟩
  | halt => exact ⟨Desk.sameFor_of_sameIn h.desk.sameIn.halt, h.calls⟩
  | look name => exact ⟨h.desk.look hbusy.waits hother.waits hhere, h.calls⟩
  | tick => cases hhere

/-! ## 3. Whole runs -/

theorem toldOn_cons (roster : Roster) (id : Int64) (busy : BusyDesk) (move : Move)
    (rest : List Move) :
    busy.toldOn roster id (move :: rest) =
      (if move.isElsewhere roster id then [] else [(busy.apply move).step.toldOn id]) ++
        (busy.apply move).busy.toldOn roster id rest := by
  rw [toldOn, steps, List.zip_cons_cons]
  cases hmove : move.isElsewhere roster id with
  | true => rw [List.filter_cons_of_neg (by simp [hmove])]; rfl
  | false => rw [List.filter_cons_of_pos (by simp [hmove])]; rfl

/-- A run tells those at work on a job what it tells them without the moves about others. -/
theorem SameFor.run (h : busy.SameFor roster id other) (hbusy : busy.KeepsTo roster)
    (hother : other.KeepsTo roster) (hmoves : ∀ move ∈ moves, move.keepsTo roster = true) :
    busy.toldOn roster id moves =
        (other.steps (Move.onJob roster id moves)).map (Step.toldOn id) ∧
      (busy.after moves).SameFor roster id (other.after (Move.onJob roster id moves)) := by
  -- A move about another job is taken by the first run alone, any other by both.
  induction moves generalizing busy other with
  | nil => exact ⟨rfl, h⟩
  | cons move rest ih =>
    obtain ⟨hfirst, hrest⟩ := List.forall_mem_cons.mp hmoves
    have hnext := hbusy.apply hfirst
    rw [toldOn_cons, Move.onJob]
    cases hmove : move.isElsewhere roster id with
    | true =>
      rw [List.filter_cons_of_neg (by simp [hmove])]
      exact ih ((sameFor_apply hbusy hfirst hmove).symm.trans h) hnext hother hrest
    | false =>
      rw [List.filter_cons_of_pos (by simp [hmove])]
      obtain ⟨htold, hsame⟩ := h.apply hbusy hother hfirst hmove
      obtain ⟨hlater, hlast⟩ := ih hsame hnext (hother.apply hfirst) hrest
      refine ⟨?_, hlast⟩
      show _ :: _ = _ :: _
      rw [htold, hlater]
      rfl

end BusyDesk

/-! ## 4. Rows -/

namespace MemoryStore

variable {store other : MemoryStore} {issued : Nat}

/-- Tables with the same row under each id hold the same rows, in the same order. -/
theorem Sound.rows_eq {issuedThere : Nat} (h : Sound store issued)
    (hother : Sound other issuedThere) (hjobs : ∀ id, store.job? id = other.job? id) :
    store.rows = other.rows := by
  have hperm : store.rows.Perm other.rows := by
    refine List.perm_iff_count.mpr fun row => ?_
    have hkey : (row.1 == row.1) = true := beq_self_eq_true row.1
    rw [← List.count_filter (p := (·.1 == row.1)) (l := store.rows) hkey,
      ← List.count_filter (p := (·.1 == row.1)) (l := other.rows) hkey,
      h.filter_rows, hother.filter_rows, hjobs]
  refine hperm.eq_of_pairwise (fun row later _ _ hbelow habove => ?_) h.ordered hother.ordered
  exact absurd (Int.lt_trans hbelow habove) (Int.lt_irrefl _)

theorem Sound.issued_lt (h : Sound store issued) : issued < 0x8000000000000000 := by
  have hlast := store.lastId.toInt_lt
  rw [h.lastId] at hlast
  omega

end MemoryStore

namespace Desk

variable {roster : Roster} {desk : Desk} {event : Event} {issued : Nat}

theorem sound_apply (h : desk.store.Sound issued) (hkeeps : event.keepsTo roster = true) :
    (desk.apply event).desk.store.Sound issued := by
  obtain ⟨edit, hmakes, hleads⟩ := desk.apply_edits event
  have hissues : edit.issues = 0 := by
    cases hmakes with
    | inserted | submitted => cases hkeeps
    | kept | written | writtenIf | coded | removed | cancelled | cancelledIf => rfl
  have hnext := h.leads (by rw [hissues]; exact h.issued_lt) hleads
  rw [hissues] at hnext
  exact hnext

end Desk

namespace BusyDesk

variable {roster : Roster} {busy : BusyDesk} {move : Move} {moves : List Move} {issued : Nat}

theorem sound_apply (h : busy.desk.store.Sound issued) (hbusy : busy.KeepsTo roster)
    (hmove : move.keepsTo roster = true) :
    (busy.apply move).busy.desk.store.Sound issued := by
  have hgoes := busy.goes move
  generalize busy.apply move = moved at hgoes ⊢
  cases hgoes with
  | early | nothing => exact h
  | whole => exact Desk.sound_apply h hmove
  | letIn => exact h.sameRows ⟨rfl, rfl, rfl⟩
  | refused => exact Desk.sound_apply h (Bool.and_eq_true_iff.mp hmove).1
  | @effect caller errand hcall =>
    have hreopened : busy.desk.reopened.store.Sound issued := h.sameRows ⟨rfl, rfl, rfl⟩
    have hnext := Desk.sound_apply hreopened (hbusy.calls _ (mem_of_lookup hcall)).1
    exact hnext.sameRows ⟨rfl, rfl, rfl⟩
  | begin => exact h.sameRows (busy.desk.ask_alike _).store.sameRows
  | elapse name => exact h.sameRows (busy.desk.elapse_alike name).store.sameRows
  | answer name => exact h.sameRows (busy.desk.answerRead_alike name).store.sameRows
  | fire name => exact h.sameRows (busy.desk.fire_alike name).store.sameRows
  | halt => exact h
  | look name => exact h.sameRows (busy.desk.look_alike name).store.sameRows
  | tick => exact ⟨h.lastId, h.keyed, h.ordered⟩

theorem sound_after (h : busy.desk.store.Sound issued) (hbusy : busy.KeepsTo roster)
    (hmoves : ∀ move ∈ moves, move.keepsTo roster = true) :
    (busy.after moves).desk.store.Sound issued := by
  induction moves generalizing busy with
  | nil => exact h
  | cons move rest ih =>
    obtain ⟨hfirst, hrest⟩ := List.forall_mem_cons.mp hmoves
    exact ih (sound_apply h hbusy hfirst) (hbusy.apply hfirst) hrest

/-! ## 5. Jobs -/

/-- Jobs are independent where none is made. Those at work on a job are told the same, and leave the
same row behind, without the moves that are about other jobs. So two runs that come to the same for
each job, with shutdown and closing in their places, tell everybody the same and leave the same rows
behind, in whatever order they bring the moves about different jobs. -/
theorem jobs_independent (roster : Roster) (start : BusyDesk) (moves : List Move) {issued : Nat}
    (hsound : start.desk.store.Sound issued) (hstart : start.KeepsTo roster)
    (hmoves : ∀ move ∈ moves, move.keepsTo roster = true) :
    (∀ id, start.toldOn roster id moves =
        (start.steps (Move.onJob roster id moves)).map (Step.toldOn id) ∧
      (start.after moves).desk.store.job? id =
        (start.after (Move.onJob roster id moves)).desk.store.job? id) ∧
    ∀ others : List Move, (∀ move ∈ others, move.keepsTo roster = true) →
      (∀ id, Move.onJob roster id others = Move.onJob roster id moves) →
      (∀ id, start.toldOn roster id others = start.toldOn roster id moves) ∧
      (start.after others).desk.store.rows = (start.after moves).desk.store.rows := by
  have halone : ∀ moves : List Move, (∀ move ∈ moves, move.keepsTo roster = true) → ∀ id,
      start.toldOn roster id moves =
          (start.steps (Move.onJob roster id moves)).map (Step.toldOn id) ∧
        (start.after moves).desk.store.job? id =
          (start.after (Move.onJob roster id moves)).desk.store.job? id := by
    intro moves hmoves id
    obtain ⟨htold, hlast⟩ := (SameFor.refl roster id start).run hstart hstart hmoves
    exact ⟨htold, hlast.desk.store.job?⟩
  refine ⟨halone moves hmoves, fun others hothers hsame => ⟨fun id => ?_, ?_⟩⟩
  · rw [(halone others hothers id).1, (halone moves hmoves id).1, hsame]
  · have hlast := sound_after hsound hstart hmoves
    refine (sound_after hsound hstart hothers).rows_eq hlast fun id => ?_
    rw [(halone others hothers id).2, (halone moves hmoves id).2, hsame]

/-- Two waits, two callers and a worker: one job is called off and one removed. The first wait finds
both signals when its read is answered, and ends with the one that it has picked. -/
theorem jobs_independent_of_two :
    let roster : Roster := fun name =>
      if name = "first" then some 1 else if name = "second" ∨ name = "caller" then some 2 else none
    let start : BusyDesk := ⟨{ store := {
      rows := [(1, ⟨1, 0, #[], ⟨0, 0⟩⟩), (2, ⟨2, 1, #[7], ⟨0, 0⟩⟩)], lastId := 2 } }, []⟩
    let moves : List Move := [.begin "first" 1 (some false) .shutDown, .call "caller" (.cancel 2),
      .whole (.wait "second" 2 (some false)), .whole (.cancelIfPending 1), .effect "caller",
      .answer "first", .tick ⟨7, 0⟩, .whole (.table (.delete 2)), .whole (.wake "second"),
      .elapse "first", .fire "first", .halt, .whole (.cancel 2), .answer "first",
      .whole (.table .close)]
    let others : List Move := [.call "caller" (.cancel 2), .whole (.wait "second" 2 (some false)),
      .effect "caller", .whole (.table (.delete 2)), .whole (.wake "second"),
      .begin "first" 1 (some false) .shutDown, .whole (.cancelIfPending 1), .answer "first",
      .elapse "first", .fire "first", .halt, .answer "first", .whole (.cancel 2),
      .whole (.table .close)]
    start.desk.store.Sound 2 ∧ start.KeepsTo roster ∧
      (∀ move ∈ moves, move.keepsTo roster = true) ∧
      (∀ id, start.toldOn roster id others = start.toldOn roster id moves) ∧
      (start.after others).desk.store.rows = (start.after moves).desk.store.rows ∧
      (start.after moves).desk.store.rows = [(1, ⟨1, 4, #[], ⟨0, 0⟩⟩)] ∧
      ((start.steps moves).flatMap (·.ended)).map (·.result) =
        [.error (.notFound 2), .error .shutDown] := by
  intro roster start moves others
  have hsound : start.desk.store.Sound 2 :=
    ⟨by decide, by decide, by decide⟩
  have hstart : start.KeepsTo roster :=
    ⟨fun _ hmem => absurd hmem List.not_mem_nil, fun _ hmem => absurd hmem List.not_mem_nil⟩
  have hmoves : ∀ move ∈ moves, move.keepsTo roster = true := by
    simp [moves, roster, Move.keepsTo, Event.keepsTo, Errand.event, Event.job?]
  have hothers : ∀ move ∈ others, move.keepsTo roster = true := by
    simp [others, roster, Move.keepsTo, Event.keepsTo, Errand.event, Event.job?]
  have hsame : ∀ id, Move.onJob roster id others = Move.onJob roster id moves := by
    intro id
    by_cases hfirst : id = 1
    · subst hfirst
      rfl
    · by_cases hsecond : id = 2
      · subst hsecond
        rfl
      · simp [Move.onJob, moves, others, roster, Move.isElsewhere, Roster.isElsewhere,
          Errand.event, Event.job?, TableAction.job?, Ne.symm hfirst, Ne.symm hsecond]
  obtain ⟨-, hboth⟩ := jobs_independent roster start moves hsound hstart hmoves
  obtain ⟨htold, hrows⟩ := hboth others hothers hsame
  exact ⟨hsound, hstart, hmoves, htold, hrows, by decide +kernel, by decide +kernel⟩

end BusyDesk

end JobDesk
