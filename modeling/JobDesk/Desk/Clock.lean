import JobDesk.Desk.Basic

/-!
# Clock — a desk whose waits read on time

A wait reads when it begins and then one interval after its last read, for as long as it goes on.
Between two events nothing happens at the desk but such reads, the earliest first.
-/

namespace JobDesk

open Coordinator (Notice)

structure Clock where
  desk : Desk := {}
  now : Span := ⟨0⟩
  due : List (String × Span) := []
  deriving Inhabited

namespace Clock

/-- What came of letting something happen: the reports made and the waits ended. -/
structure Report where
  notices : List Notice := []
  ended : List EndedWait := []

def Report.append (first second : Report) : Report :=
  ⟨first.notices ++ second.notices, first.ended ++ second.ended⟩

def interval (clock : Clock) : Span := clock.desk.coordinator.settings.pollInterval.slept

def reschedule (clock : Clock) (name : String) : Clock :=
  let next : Span := ⟨clock.now.nanos + clock.interval.nanos⟩
  { clock with due := clock.due.filter (·.1 != name) ++ [(name, next)] }

def pending (clock : Clock) : List (String × Span) :=
  clock.due.filter fun (name, _) => clock.desk.waiters.any (·.name == name)

def earliest? : List (String × Span) → Option (String × Span)
  | [] => none
  | first :: rest =>
    match earliest? rest with
    | some best => if best.2.nanos < first.2.nanos then some best else some first
    | none => some first

def apply (clock : Clock) (event : Event) : Answer × Report × Clock :=
  let step := clock.desk.apply event
  let clock := { clock with desk := step.desk }
  let clock :=
    match event with
    | .wait name _ _ _ | .wake name => clock.reschedule name
    | _ => clock
  (step.answer, ⟨step.notices, step.ended⟩, { clock with due := clock.pending })

/-- The reads up to a point in time, that one included; at most `rounds` of them. -/
def readUntil (time : Span) : (rounds : Nat) → Clock → Report → Report × Clock
  | 0, clock, report => (report, clock)
  | rounds + 1, clock, report =>
    match earliest? clock.pending with
    | some (name, due) =>
      -- A read that is due at the end of the span still happens.
      if due.nanos ≤ time.nanos then
        let (_, more, clock) := { clock with now := due }.apply (.wake name)
        readUntil time rounds clock (report.append more)
      else (report, clock)
    | none => (report, clock)

def rounds (clock : Clock) (span : Span) : Nat :=
  (span.nanos / clock.interval.nanos + 1) * clock.desk.waiters.length

def advance (clock : Clock) (span : Span) : Report × Clock :=
  let time : Span := ⟨clock.now.nanos + span.nanos⟩
  let (report, clock) := readUntil time (clock.rounds span) clock {}
  (report, { clock with now := time })

end Clock

end JobDesk
