import JobDesk.Http.Exchange
import JobDesk.Proofs.Desk.Edits

/-!
# Visits — a service in use

Clients send requests, others act on the desk, and time passes between them, in any order.  Each
visit changes the job table by one edit, and only a submission hands out an id.
-/

namespace JobDesk.Http

open MemoryStore (Edit SameRows Sound Keeps)

/-! ## 1. Visits -/

inductive Visit where
  | send (name now : String) (request : Request)
  | act (event : Event)
  | pass (span : Span)

namespace Visit

def response? (clock : Clock) : Visit → Option Response
  | .send name now request => (Exchange.begin clock name now request).response
  | _ => none

def next (clock : Clock) : Visit → Clock
  | .send name now request => (Exchange.begin clock name now request).clock
  | .act event => (clock.apply event).2.2
  | .pass span => (clock.advance span).2

def isSubmission : Visit → Bool
  | .send _ _ request =>
    match request.task with
    | .ok (.submit _) => true
    | _ => false
  | .act (.submit _) => true
  | .act (.table (.insert _)) => true
  | _ => false

end Visit

def run (clock : Clock) (visits : List Visit) : Clock :=
  visits.foldl Visit.next clock

/-- What some visits are answered at once, one after the other. -/
def responses (clock : Clock) : List Visit → List (Option Response)
  | [] => []
  | visit :: rest => visit.response? clock :: responses (visit.next clock) rest

/-! ## 2. Requests as events -/

def Request.event? (request : Request) (name : String) : Option Event :=
  match request.task with
  | .ok (.submit (.object members)) => some (.submit (.object members))
  | .ok (.fetch id) => some (.fetch id)
  | .ok (.status id) => some (.status id)
  | .ok (.cancel id onlyPending) => some (if onlyPending then .cancelIfPending id else .cancel id)
  | .ok (.wait id) => some (.wait name id none)
  | _ => none

theorem begin_desk (clock : Clock) (name now : String) (request : Request) :
    (Exchange.begin clock name now request).clock.desk =
      match request.event? name with
      | some event => (clock.desk.apply event).desk
      | none => clock.desk := by
  unfold Exchange.begin serve Request.event?
  cases request.task with
  | error refusal => rfl
  | ok task =>
    cases task with
    | health => rfl
    | submit config => cases config <;> rfl
    | fetch id => rfl
    | status id => rfl
    | cancel id onlyPending => cases onlyPending <;> rfl
    | wait id => exact clock.apply_desk (.wait name id none)

theorem Request.event?_ne_table (request : Request) (name : String) (action : TableAction) :
    request.event? name ≠ some (.table action) := by
  unfold Request.event?
  split
  any_goals simp
  split <;> simp

theorem Request.task_of_event? {request : Request} {name : String} {config : Json}
    (h : request.event? name = some (.submit config)) : request.task = .ok (.submit config) := by
  unfold Request.event? at h
  split at h
  any_goals cases h
  · assumption
  · split at h <;> cases h

/-! ## 3. Visits as edits -/

namespace Visit

def event? : Visit → Option Event
  | .send name _ request => request.event? name
  | .act event => some event
  | .pass _ => none

def Makes (visit : Visit) (edit : Edit) : Prop :=
  edit = .keep ∨ ∃ event, visit.event? = some event ∧ event.Makes edit

variable {visit : Visit} {edit : Edit}

theorem next_edits (clock : Clock) (visit : Visit) :
    ∃ edit, visit.Makes edit ∧ edit.Leads clock.desk.store (visit.next clock).desk.store := by
  cases visit with
  | send name now request =>
    rw [next, begin_desk]
    split
    · rename_i event hevent
      obtain ⟨edit, hmakes, hleads⟩ := clock.desk.apply_edits event
      exact ⟨edit, .inr ⟨event, hevent, hmakes⟩, hleads⟩
    · exact ⟨.keep, .inl rfl, .refl clock.desk.store⟩
  | act event =>
    rw [next, clock.apply_desk]
    obtain ⟨edit, hmakes, hleads⟩ := clock.desk.apply_edits event
    exact ⟨edit, .inr ⟨event, rfl, hmakes⟩, hleads⟩
  | pass span => exact ⟨.keep, .inl rfl, clock.advance_sameRows span⟩

theorem issues_le (h : visit.Makes edit) : edit.issues ≤ if visit.isSubmission then 1 else 0 := by
  rcases h with rfl | ⟨event, hevent, hmakes⟩
  · exact Nat.zero_le _
  -- Of all edits only a new row is given an id: inserted by hand or submitted.
  cases hmakes with
  | inserted payload =>
    cases visit with
    | send name now request => exact absurd hevent (request.event?_ne_table name _)
    | act event =>
      obtain rfl := Option.some.inj hevent
      exact Nat.le_refl 1
    | pass span => cases hevent
  | submitted hencode =>
    cases visit with
    | send name now request =>
      simp only [isSubmission, Request.task_of_event? hevent]
      exact Nat.le_refl 1
    | act event =>
      obtain rfl := Option.some.inj hevent
      exact Nat.le_refl 1
    | pass span => cases hevent
  | kept | written | writtenIf | coded | removed | cancelled | cancelledIf => exact Nat.zero_le _

theorem eq_delete {id : Int64} (h : visit.Makes (.delete id)) :
    visit = .act (.table (.delete id)) := by
  rcases h with hkeep | ⟨event, hevent, hmakes⟩
  · cases hkeep
  -- No request removes rows: the only event that does is one at the table.
  cases hmakes
  cases visit with
  | send name now request => exact absurd hevent (request.event?_ne_table name _)
  | act event =>
    obtain rfl := Option.some.inj hevent
    rfl
  | pass span => cases hevent

end Visit

/-! ## 4. Runs -/

variable {clock : Clock} {visit : Visit} {visits : List Visit} {issued : Nat}

theorem next_sound (h : Sound clock.desk.store issued)
    (hroom : issued + [visit].countP Visit.isSubmission < 0x8000000000000000) :
    ∃ now, issued ≤ now ∧ now ≤ issued + [visit].countP Visit.isSubmission ∧
      Sound (visit.next clock).desk.store now := by
  obtain ⟨edit, hmakes, hleads⟩ := visit.next_edits clock
  have hissues := Visit.issues_le hmakes
  rw [List.countP_singleton] at hroom ⊢
  exact ⟨issued + edit.issues, by omega, by omega, h.leads (by omega) hleads⟩

theorem run_sound (h : Sound clock.desk.store issued)
    (hroom : issued + visits.countP Visit.isSubmission < 0x8000000000000000) :
    ∃ now, issued ≤ now ∧ now ≤ issued + visits.countP Visit.isSubmission ∧
      Sound (run clock visits).desk.store now := by
  induction visits generalizing clock issued with
  | nil => exact ⟨issued, Nat.le_refl _, Nat.le_refl _, h⟩
  | cons visit rest ih =>
    rw [← List.singleton_append, List.countP_append] at hroom ⊢
    -- The first visit may use up one id, and the others have those that are left.
    obtain ⟨middle, hlow, hhigh, hmiddle⟩ := @next_sound clock visit issued h (by omega)
    obtain ⟨now, hnow, hend, hsound⟩ := ih hmiddle (by omega)
    exact ⟨now, by omega, by omega, hsound⟩

theorem run_keeps {id : Int64} {payload : Bytes} {created : Moment}
    (h : clock.desk.store.Keeps id payload created)
    (hkept : .act (.table (.delete id)) ∉ visits) :
    (run clock visits).desk.store.Keeps id payload created := by
  induction visits generalizing clock with
  | nil => exact h
  | cons visit rest ih =>
    rw [List.mem_cons, not_or] at hkept
    obtain ⟨hfirst, hrest⟩ := hkept
    obtain ⟨edit, hmakes, hleads⟩ := visit.next_edits clock
    refine ih (h.leads ?_ hleads) hrest
    rintro rfl
    exact hfirst (Visit.eq_delete hmakes).symm

end JobDesk.Http
