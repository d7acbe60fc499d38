import Mathlib.Data.List.Destutter
import JobDesk.Proofs.Coordinator.WaitRun
import JobDesk.Proofs.Text.Decimal

/-!
# Sightings — the statuses that a wait reports

A wait reports a code that it reads unless it is the code that it has read last.  What it reports at
the debug level are therefore the labels of the codes that it has read, with those that follow
themselves taken once (`sightings`), whatever else happens to it.
-/

namespace JobDesk

/-! ## 1. Labels -/

namespace Status

theorem ofName?_name (s : Status) : ofName? s.name = some s := by
  cases s <;> rfl

theorem name_injective {s t : Status} (h : s.name = t.name) : s = t := by
  have hnames := congrArg ofName? h
  rw [ofName?_name, ofName?_name] at hnames
  exact Option.some.inj hnames

theorem code_of_ofCode? {code : Int16} {s : Status} (h : ofCode? code = some s) : s.code = code :=
  eq_of_beq (List.find?_some (p := fun s : Status => s.code == code) h)

theorem label_of_some {code : Int16} {s : Status} (h : ofCode? code = some s) :
    label code = s.name := by
  rw [label, h]

theorem toList_label_of_none {code : Int16} (h : ofCode? code = none) :
    (label code).toList = "UNKNOWN(".toList ++ (toString code.toInt).toList ++ [')'] := by
  rw [label, h]
  simp [String.toList_append, ToString.toString]

theorem name_ne_label {code : Int16} (s : Status) (h : ofCode? code = none) :
    s.name ≠ label code := by
  intro heq
  have hhead := congrArg (·.toList.head?) heq
  simp only [toList_label_of_none h, List.append_assoc] at hhead
  change s.name.toList.head? = some 'U' at hhead
  cases s <;> exact absurd hhead (by decide)

theorem label_injective : Function.Injective label := by
  intro a b hlabel
  cases ha : ofCode? a with
  | some s =>
    cases hb : ofCode? b with
    | some t =>
      rw [label_of_some ha, label_of_some hb] at hlabel
      rw [← code_of_ofCode? ha, ← code_of_ofCode? hb, name_injective hlabel]
    | none => exact absurd ((label_of_some ha).symm.trans hlabel) (name_ne_label s hb)
  | none =>
    cases hb : ofCode? b with
    | some t => exact absurd ((label_of_some hb).symm.trans hlabel.symm) (name_ne_label t ha)
    | none =>
      have htext := congrArg String.toList hlabel
      rw [toList_label_of_none ha, toList_label_of_none hb] at htext
      have hnumber := List.append_cancel_left (List.append_cancel_right htext)
      exact Int16.toInt_inj.mp (Text.eq_of_toString hnumber)

end Status

/-! ## 2. Repetitions -/

section

variable {α : Type} [DecidableEq α]

theorem destutter'_concat (a b : α) (l : List α) :
    (l ++ [a]).destutter' (· ≠ ·) b =
      l.destutter' (· ≠ ·) b ++ if (b :: l).getLast? = some a then [] else [a] := by
  induction l generalizing b with
  | nil => by_cases h : b = a <;> simp [h]
  | cons c rest ih =>
    rw [List.getLast?_cons_cons]
    by_cases h : b = c
    · subst h
      rw [List.cons_append, List.destutter'_cons_neg _ (by simp), ih,
        List.destutter'_cons_neg _ (by simp)]
    · rw [List.cons_append, List.destutter'_cons_pos _ h, ih, List.destutter'_cons_pos _ h]
      rfl

theorem destutter_concat (l : List α) (a : α) :
    (l ++ [a]).destutter (· ≠ ·) =
      l.destutter (· ≠ ·) ++ if l.getLast? = some a then [] else [a] := by
  cases l with
  | nil => rfl
  | cons b rest => exact destutter'_concat a b rest

end

namespace Coordinator

/-! ## 3. Reports on codes -/

def debugRecords (notices : List Notice) : List LogRecord :=
  (notices.map Notice.record).filter (·.level == .debug)

def sighting (id : Int64) (label : String) : LogRecord :=
  ⟨.debug, "search_jobs::services::coordinator", s!"Search job {id.toInt} is {label}"⟩

/-- The records on codes that are read one after the other: one on each label that differs from the
one before. -/
def sightings (id : Int64) (codes : List Int16) : List LogRecord :=
  ((codes.map Status.label).destutter (· ≠ ·)).map (sighting id)

/-- The code in an answer; a failed read and a missing job have none. -/
def codeOf? : StatusAnswer → Option Int16
  | .ok code? => code?
  | .error _ => none

variable {id : Int64} {codes : List Int16} {notices : List Notice}

theorem sightings_eq (id : Int64) (codes : List Int16) :
    sightings id codes =
      (codes.destutter (· ≠ ·)).map fun code => sighting id (Status.label code) := by
  rw [sightings, ← List.map_destutter_ne codes Status.label_injective, List.map_map]
  rfl

theorem length_sightings_le (id : Int64) (codes : List Int16) :
    (sightings id codes).length ≤ codes.length := by
  rw [sightings_eq, List.length_map]
  exact (List.destutter_sublist (· ≠ ·) codes).length_le

theorem debugRecords_append (first second : List Notice) :
    debugRecords (first ++ second) = debugRecords first ++ debugRecords second := by
  rw [debugRecords, List.map_append, List.filter_append]
  rfl

theorem debugRecords_verdict (id : Int64) (code : Int16) :
    debugRecords (verdict id code).2 = [] := by
  unfold verdict
  split <;> rfl

theorem sightings_concat (id : Int64) (codes : List Int16) (code : Int16) :
    sightings id (codes ++ [code]) =
      sightings id codes ++ debugRecords (seenNotice id codes.getLast? code) := by
  rw [sightings_eq, sightings_eq, destutter_concat, List.map_append, seenNotice]
  congr 1
  split <;> rfl

def WaitState.Recalls (codes : List Int16) : WaitState → Prop
  | .reading lastSeen | .sleeping lastSeen => lastSeen = codes.getLast?
  | .ended _ => True

theorem recalls_beginRead (id : Int64) (signals : Signals) (codes : List Int16) :
    (beginRead id signals codes.getLast?).Recalls codes := by
  unfold beginRead
  split
  · trivial
  · split
    · trivial
    · rfl

theorem recalls_beginSleep (id : Int64) (signals : Signals) (codes : List Int16) :
    (beginSleep id signals codes.getLast?).Recalls codes := by
  unfold beginSleep
  split
  · trivial
  · rfl

theorem WaitState.Recalls.onSignal {state : WaitState} (h : state.Recalls codes) (id : Int64)
    (signals : Signals) : (state.onSignal id signals).Recalls codes := by
  cases state with
  | reading | ended => exact h
  | sleeping lastSeen =>
    obtain rfl : lastSeen = codes.getLast? := h
    exact recalls_beginSleep id signals codes

theorem WaitState.Recalls.onTimer {state : WaitState} (h : state.Recalls codes) (id : Int64)
    (signals : Signals) : (state.onTimer id signals).Recalls codes := by
  cases state with
  | reading | ended => exact h
  | sleeping lastSeen =>
    obtain rfl : lastSeen = codes.getLast? := h
    exact recalls_beginRead id signals codes

/-- The answer to a read is reported and remembered with the codes that were read before. -/
theorem takeAnswer_sightings (waiting : WaitingSet) (id : Int64) (signals : Signals)
    (codes : List Int16) (answer : StatusAnswer) :
    let took := takeAnswer waiting id signals codes.getLast? answer
    let read := codes ++ (codeOf? answer).toList
    took.1.Recalls read ∧ sightings id read = sightings id codes ++ debugRecords took.2 := by
  cases answer with
  | error error =>
    simp only [codeOf?, Option.toList_none, List.append_nil]
    exact ⟨trivial, (List.append_nil _).symm⟩
  | ok code? =>
    cases code? with
    | none =>
      simp only [codeOf?, Option.toList_none, List.append_nil]
      exact ⟨trivial, (List.append_nil _).symm⟩
    | some code =>
      have hlast : (codes ++ [code]).getLast? = some code := List.getLast?_concat
      simp only [codeOf?, Option.toList_some, sightings_concat, takeAnswer]
      split
      · exact ⟨hlast ▸ recalls_beginSleep id signals (codes ++ [code]), rfl⟩
      · rw [debugRecords_append, debugRecords_verdict, List.append_nil]
        exact ⟨trivial, rfl⟩

/-! ## 4. Whole waits -/

def codesRead (answers : Nat → StatusAnswer) (n : Nat) : List Int16 :=
  (List.range n).filterMap fun i => codeOf? (answers i)

theorem codesRead_succ (answers : Nat → StatusAnswer) (n : Nat) :
    codesRead answers (n + 1) = codesRead answers n ++ (codeOf? (answers n)).toList := by
  rw [codesRead, List.range_succ, List.filterMap_append]
  rfl

namespace WaitRun

variable {settings : CoordinatorSettings} {answers : Nat → StatusAnswer} {run : WaitRun}

/-- What a wait has reported, what it remembers and how many reads it has begun, by the answers that
it has got. -/
structure Reports (id : Int64) (answers : Nat → StatusAnswer) (run : WaitRun) : Prop where
  records : debugRecords run.notices = sightings id (codesRead answers run.answered)
  recalls : run.state.Recalls (codesRead answers run.answered)
  reads : run.deeds.count .read = run.answered + (run.state.deed? ⟨0⟩).toList.count .read

theorem count_deed? (interval : Span) (state : WaitState) :
    (state.deed? interval).toList.count .read = (state.deed? ⟨0⟩).toList.count .read := by
  cases state <;> rfl

theorem count_deed?_onSignal (signals : Signals) (state : WaitState) :
    ((state.onSignal id signals).deed? ⟨0⟩).toList.count .read =
      (state.deed? ⟨0⟩).toList.count .read := by
  cases state with
  | reading | ended => rfl
  | sleeping lastSeen =>
    simp only [WaitState.onSignal, beginSleep]
    split <;> rfl

theorem reports_start (settings : CoordinatorSettings) (id : Int64) (answers : Nat → StatusAnswer)
    (signals : Signals) : (start settings id signals).Reports id answers where
  records := rfl
  recalls := recalls_beginRead id signals []
  reads := by
    simp only [start, enter, List.nil_append, Nat.zero_add]
    exact count_deed? _ _

theorem count_enter (interval : Span) (run : WaitRun) (state : WaitState) :
    (run.enter interval state).deeds.count .read =
      run.deeds.count .read + (state.deed? ⟨0⟩).toList.count .read := by
  rw [enter, List.count_append, count_deed?]

theorem Reports.looked (h : run.Reports id answers) :
    (run.step settings id answers .looked).Reports id answers where
  records := h.records
  recalls := h.recalls.onSignal id run.signals
  reads := by
    simp only [WaitRun.step, count_deed?_onSignal]
    exact h.reads

theorem Reports.step (h : run.Reports id answers) (event : WaitEvent) :
    (run.step settings id answers event).Reports id answers := by
  cases event with
  | answered =>
    cases hstate : run.state with
    | reading lastSeen =>
      obtain rfl : lastSeen = (codesRead answers run.answered).getLast? := by
        have hrecalls := h.recalls
        rwa [hstate] at hrecalls
      obtain ⟨hrecalls, hrecords⟩ := takeAnswer_sightings settings.waiting id run.signals
        (codesRead answers run.answered) (answers run.answered)
      have hreads := h.reads
      rw [hstate] at hreads
      simp only [WaitRun.step, hstate]
      constructor
      · rw [debugRecords_append, h.records, codesRead_succ, hrecords]
      · rw [codesRead_succ]
        exact hrecalls
      · exact (count_enter _ _ _).trans (congrArg (· + _) hreads)
    | sleeping | ended => simpa only [WaitRun.step, hstate] using h
  | elapsed =>
    cases hstate : run.state with
    | sleeping lastSeen =>
      have hreads := h.reads
      rw [hstate] at hreads
      simp only [WaitRun.step, hstate]
      refine ⟨h.records, ?_, (count_enter _ _ _).trans (congrArg (· + _) hreads)⟩
      exact (hstate ▸ h.recalls : (WaitState.sleeping lastSeen).Recalls _).onTimer id run.signals
    | reading | ended => simpa only [WaitRun.step, hstate] using h
  | looked => exact h.looked
  | abandoned | stopped => exact ⟨h.records, h.recalls, h.reads⟩

theorem Reports.after (h : run.Reports id answers) (events : List WaitEvent) :
    (run.after settings id answers events).Reports id answers := by
  induction events generalizing run with
  | nil => exact h
  | cons event rest ih => exact ih (h.step event)

end WaitRun

/-- Every wait reports the codes that it has read, those that follow themselves once. -/
theorem waitRun_reports (settings : CoordinatorSettings) (id : Int64)
    (answers : Nat → StatusAnswer) (signals : Signals) (events : List WaitEvent) :
    (waitRun settings id answers signals events).Reports id answers :=
  (WaitRun.reports_start settings id answers signals).after events

end Coordinator

end JobDesk
