import JobDesk.Proofs.Coordinator.WaitRun
import JobDesk.Proofs.Settings.CodeList
import JobDesk.Service

/-!
# Waiting — what accepted settings wait for

Settings that are accepted have settings for the coordinator, and these wait for the end of a job
and never beyond it: no list of further codes, however it is written, makes them wait at the code of
a status at which a job has come to its end.
-/

namespace JobDesk

open Coordinator (WaitEvent WaitRun decided goesOn waitRun)
open Coordinator.WaitRun (rounds)
open Text (Blank Denotes)

namespace Settings

variable {settings : Settings} {codes : List Int16} {code : Int16}

/-! ## 1. The codes that are listed -/

def pieces (settings : Settings) : List (List Char) := settings.extraCodes.toList.splitOn ','

def Lists (settings : Settings) (code : Int16) : Prop :=
  ∃ piece ∈ settings.pieces, Denotes piece code

/-- The codes that are waited at: those of all waiting statuses, and those that are listed. -/
def WaitsAt (settings : Settings) (code : Int16) : Prop :=
  code = 0 ∨ code = 1 ∨ code = 4 ∨ settings.Lists code

/-- The codes of the statuses at which a job has come to its end. -/
def IsEnd (code : Int16) : Prop := code = 2 ∨ code = 3 ∨ code = 5

instance : DecidablePred IsEnd := fun code =>
  inferInstanceAs (Decidable (code = 2 ∨ code = 3 ∨ code = 5))

theorem isTerminalCode_iff : isTerminalCode code = true ↔ IsEnd code := by
  unfold isTerminalCode
  constructor
  · intro h
    obtain ⟨status, hstatus, hend⟩ := (Option.any_eq_true _ _).mp h
    have hfound := List.find?_some (p := fun s : Status => s.code == code) hstatus
    have hcode : code = status.code := (eq_of_beq hfound).symm
    cases status with
    | pending | running | cancelling => cases hend
    | succeeded => exact .inl hcode
    | failed => exact .inr (.inl hcode)
    | cancelled => exact .inr (.inr hcode)
  · rintro (rfl | rfl | rfl) <;> rfl

theorem codeList_eq_ok_iff :
    codeList settings.extraCodes = .ok codes ↔ CodesOf settings.pieces codes :=
  codesOfPieces_eq_ok_iff

theorem extraWaitingCodes_eq_ok_iff : settings.extraWaitingCodes = .ok codes ↔
    CodesOf settings.pieces codes ∧ ∀ code ∈ codes, ¬ IsEnd code := by
  rw [← codeList_eq_ok_iff]
  unfold extraWaitingCodes
  constructor
  · intro h
    obtain ⟨all, hread, h⟩ := ok_of_bind h
    split at h
    · cases h
    · rename_i hnone
      obtain rfl := Except.ok.inj h
      refine ⟨hread, fun code hmem hend => ?_⟩
      exact List.find?_eq_none.mp hnone code hmem (isTerminalCode_iff.mpr hend)
  · rintro ⟨hread, hnone⟩
    have hfind : codes.find? isTerminalCode = none := List.find?_eq_none.mpr fun code hmem hend =>
      hnone code hmem (isTerminalCode_iff.mp hend)
    simp only [hread, bind, Except.bind, hfind]
    rfl

/-- The list is read unless a piece is neither blank nor a code, or denotes the code of an end. -/
theorem exists_extraWaitingCodes_iff : (∃ codes, settings.extraWaitingCodes = .ok codes) ↔
    (∀ piece ∈ settings.pieces, Blank piece ∨ ∃ code, Denotes piece code) ∧
      ∀ code, IsEnd code → ¬ settings.Lists code := by
  rw [← exists_codesOf_iff]
  constructor
  · rintro ⟨codes, h⟩
    obtain ⟨hcodes, hnone⟩ := extraWaitingCodes_eq_ok_iff.mp h
    exact ⟨⟨codes, hcodes⟩, fun code hend hlists => hnone code (hcodes.mem_iff.mpr hlists) hend⟩
  · rintro ⟨⟨codes, hcodes⟩, hnone⟩
    exact ⟨codes, extraWaitingCodes_eq_ok_iff.mpr
      ⟨hcodes, fun code hmem hend => hnone code hend (hcodes.mem_iff.mp hmem)⟩⟩

/-! ## 2. Accepted settings -/

theorem check_eq_ok_iff : settings.check = .ok () ↔
    settings.dbHost.isEmpty = false ∧ settings.pollInterval ≠ 0 ∧
      Postgres.isIdentifier settings.table = true ∧
      ∃ codes, settings.extraWaitingCodes = .ok codes := by
  unfold check
  -- The checks stand one behind the other, and the first that fails decides.
  by_cases hhost : settings.dbHost.isEmpty = true
  · rw [if_pos hhost]
    exact iff_of_false (fun h => nomatch h) fun h => absurd (hhost.symm.trans h.1) (by decide)
  rw [if_neg hhost]
  by_cases hinterval : settings.pollInterval = 0
  · rw [if_pos hinterval]
    exact iff_of_false (fun h => nomatch h) fun h => h.2.1 hinterval
  rw [if_neg hinterval]
  cases htable : Postgres.isIdentifier settings.table with
  | false => exact iff_of_false (fun h => nomatch h) fun h => absurd h.2.2.1 (by decide)
  | true =>
    cases hcodes : settings.extraWaitingCodes with
    | error fault =>
      refine iff_of_false (fun h => nomatch h) ?_
      rintro ⟨-, -, -, codes, h⟩
      cases h
    | ok codes =>
      exact iff_of_true rfl ⟨Bool.eq_false_iff.mpr hhost, hinterval, rfl, codes, rfl⟩

theorem validate_eq_ok_iff : settings.validate.1 = .ok () ↔ settings.check = .ok () := by
  unfold validate
  cases settings.check with
  | ok => simp
  | error fault => simp

theorem coordinatorSettings_eq (h : settings.extraWaitingCodes = .ok codes) :
    settings.coordinatorSettings = .ok {
      pollInterval := .ofMillis settings.pollInterval.toNat
      waiting := .ofCodes (WaitingSet.standard.codes.toList ++ codes) } := by
  simp only [coordinatorSettings, h, bind, Except.bind, pure, Except.pure]

/-- The coordinator waits at the codes that the settings say, and at no others. -/
theorem coordinatorSettings_of_ok (h : settings.extraWaitingCodes = .ok codes) :
    ∃ coordinator, settings.coordinatorSettings = .ok coordinator ∧
      ∀ code, coordinator.waiting.contains code = true ↔ settings.WaitsAt code := by
  refine ⟨_, coordinatorSettings_eq h, fun code => ?_⟩
  obtain ⟨hcodes, -⟩ := extraWaitingCodes_eq_ok_iff.mp h
  have hstandard : WaitingSet.standard.codes.toList = [0, 1, 4] := by decide
  rw [WaitingSet.contains_ofCodes, hstandard, List.mem_append, hcodes.mem_iff]
  simp only [List.mem_cons, List.not_mem_nil, or_false, WaitsAt, Lists, or_assoc]

theorem coordinatorSettings_of_error {fault : SettingsFault}
    (h : settings.extraWaitingCodes = .error fault) :
    settings.coordinatorSettings = .error fault := by
  simp only [coordinatorSettings, h, bind, Except.bind]

theorem not_waitsAt_of_isEnd (h : settings.extraWaitingCodes = .ok codes) (hend : IsEnd code) :
    ¬ settings.WaitsAt code := by
  rintro (rfl | rfl | rfl | hlisted)
  · exact absurd hend (by decide)
  · exact absurd hend (by decide)
  · exact absurd hend (by decide)
  · exact (exists_extraWaitingCodes_iff.mp ⟨codes, h⟩).2 code hend hlisted

/-- The check refuses the settings, and they give none for a coordinator. -/
structure IsRefused (settings : Settings) : Prop where
  check : ∃ fault, settings.validate.1 = .error fault
  coordinator : ∃ fault, settings.coordinatorSettings = .error fault

theorem isRefused_of_error {fault : SettingsFault} (h : settings.extraWaitingCodes = .error fault) :
    settings.IsRefused := by
  refine ⟨?_, fault, coordinatorSettings_of_error h⟩
  -- Another fault may come first, but some fault does.
  cases hvalid : settings.validate.1 with
  | error fault => exact ⟨fault, rfl⟩
  | ok =>
    obtain ⟨-, -, -, codes, hcodes⟩ := check_eq_ok_iff.mp (validate_eq_ok_iff.mp hvalid)
    rw [h] at hcodes
    cases hcodes

/-! ## 3. Waits -/

section

variable {coordinator : CoordinatorSettings} {id : Int64} {answers : Nat → StatusAnswer}

theorem goesOn_iff
    (hwaits : ∀ code, coordinator.waiting.contains code = true ↔ settings.WaitsAt code) :
    goesOn coordinator.waiting (.ok (some code)) = true ↔ settings.WaitsAt code := by
  rw [← hwaits, WaitingSet.contains_iff, goesOn, decide_eq_true_eq]

/-- The answer to a read that is in flight ends a wait if it does not let it go on. -/
theorem ended_of_answer {signals : Coordinator.Signals} {events : List WaitEvent}
    {lastSeen : Option Int16}
    (hstate : (waitRun coordinator id answers signals events).state = .reading lastSeen)
    (hend : goesOn coordinator.waiting
      (answers (waitRun coordinator id answers signals events).answered) = false)
    (later : List WaitEvent) :
    (waitRun coordinator id answers signals (events ++ .answered :: later)).state =
      .ended (decided id (answers (waitRun coordinator id answers signals events).answered)) := by
  obtain ⟨-, -, hended, -⟩ := WaitRun.step_answered coordinator id answers hstate
  rw [waitRun, WaitRun.after_append]
  exact (WaitRun.after_ended (hended hend) later).1

theorem ended_of_rounds {pick : Coordinator.Signal} {events : List WaitEvent} {k : Nat}
    (hevents : ∀ event ∈ events, event.isSignal = false)
    (hbefore : ∀ i < k, goesOn coordinator.waiting (answers i) = true)
    (hend : goesOn coordinator.waiting (answers k) = false) :
    (waitRun coordinator id answers ⟨false, false, pick⟩ (events ++ rounds (k + 1))).state =
      .ended (decided id (answers k)) := by
  have hstart : (WaitRun.start coordinator id ⟨false, false, pick⟩).Quiet coordinator id answers :=
    WaitRun.quiet_start coordinator id answers rfl
  obtain ⟨hquiet, hsignals⟩ := hstart.after rfl hevents
  rw [waitRun, WaitRun.after_append]
  exact hquiet.ends hsignals hbefore hend

end

/-- How a service does with its settings. It starts, and its waits go on at the codes of waiting
statuses and at those that are listed, which are never those of an end. -/
structure RunsWith (settings : Settings) (coordinator : CoordinatorSettings) : Prop where
  isSet : settings.coordinatorSettings = .ok coordinator
  table : Postgres.isIdentifier settings.table = true
  starts : ∀ {L : Type} [Postgres.Link L] (link : L) now reads listening,
    Service.run settings link now reads listening =
      Service.start settings coordinator link now reads
        (settings.notices ++ Service.greeting settings) listening
  waits : ∀ code, coordinator.waiting.contains code = true ↔ settings.WaitsAt code
  ends : ∀ code, IsEnd code → coordinator.waiting.contains code = false ∧ ¬ settings.Lists code
  -- Whatever has happened to a wait, a read that is answered with such a code is its last one.
  last : ∀ id answers signals events lastSeen code later,
    (waitRun coordinator id answers signals events).state = .reading lastSeen →
    answers (waitRun coordinator id answers signals events).answered = .ok (some code) →
    IsEnd code ∨ ¬ settings.WaitsAt code →
    (waitRun coordinator id answers signals (events ++ .answered :: later)).state =
      .ended (decided id (.ok (some code)))
  -- A wait that is let alone comes to the first such read.
  first : ∀ id answers pick events k code, (∀ event ∈ events, event.isSignal = false) →
    (∀ i < k, ∃ other, answers i = .ok (some other) ∧ settings.WaitsAt other) →
    answers k = .ok (some code) → IsEnd code ∨ ¬ settings.WaitsAt code →
    (waitRun coordinator id answers ⟨false, false, pick⟩ (events ++ rounds (k + 1))).state =
      .ended (decided id (.ok (some code)))

/-- Accepted settings have settings for the coordinator and a table name that is an identifier, so
the service starts with them.  Its waits go on at the codes of waiting statuses and at those that
are listed, which are never those of an end: the first answer with any other code ends a wait.  A
list with a piece that is neither blank nor a code, or with the code of an end, is refused. -/
theorem accepted_settings_wait_for_no_end (settings : Settings) :
    (settings.validate.1 = .ok () → ∃ coordinator, settings.RunsWith coordinator) ∧
    ((∃ piece ∈ settings.pieces, ¬ Blank piece ∧ ∀ code, ¬ Denotes piece code) ∨
        (∃ code, IsEnd code ∧ settings.Lists code) → settings.IsRefused) := by
  constructor
  · intro hvalid
    obtain ⟨-, -, htable, codes, hcodes⟩ := check_eq_ok_iff.mp (validate_eq_ok_iff.mp hvalid)
    obtain ⟨coordinator, hcoordinator, hwaits⟩ := coordinatorSettings_of_ok hcodes
    -- No code of an end is waited at, and no other one that is not listed.
    have hend : ∀ code, IsEnd code ∨ ¬ settings.WaitsAt code →
        goesOn coordinator.waiting (.ok (some code)) = false := by
      intro code hcode
      rw [Bool.eq_false_iff, Ne, goesOn_iff hwaits]
      exact hcode.elim (not_waitsAt_of_isEnd hcodes) id
    refine ⟨coordinator, {
      isSet := hcoordinator, table := htable, waits := hwaits
      starts := ?_, ends := ?_, last := ?_, first := ?_ }⟩
    · intro L _ link now reads listening
      have hnotices : settings.validate = (.ok (), settings.notices) := by
        rw [validate, validate_eq_ok_iff.mp hvalid]
      simp only [Service.run, hnotices, hcoordinator]
    · intro code hcode
      have hnot := not_waitsAt_of_isEnd hcodes hcode
      exact ⟨Bool.eq_false_iff.mpr (mt (hwaits code).mp hnot),
        fun hlisted => hnot (.inr (.inr (.inr hlisted)))⟩
    · intro id answers signals events lastSeen code later hstate hanswer hcode
      rw [← hanswer]
      exact ended_of_answer hstate (hanswer ▸ hend code hcode) later
    · intro id answers pick events k code hevents hbefore hanswer hcode
      rw [← hanswer]
      refine ended_of_rounds hevents (fun i hi => ?_) (hanswer ▸ hend code hcode)
      obtain ⟨other, hother, hlisted⟩ := hbefore i hi
      rw [hother]
      exact (goesOn_iff hwaits).mpr hlisted
  · intro hbad
    cases hcodes : settings.extraWaitingCodes with
    | error fault => exact isRefused_of_error hcodes
    | ok codes =>
      obtain ⟨hpieces, hends⟩ := exists_extraWaitingCodes_iff.mp ⟨codes, hcodes⟩
      rcases hbad with ⟨piece, hmem, hblank, hnone⟩ | ⟨code, hend, hlists⟩
      · rcases hpieces piece hmem with h | ⟨code, h⟩
        · exact absurd h hblank
        · exact absurd h (hnone code)
      · exact absurd hlists (hends code hend)

/-- Settings with a code in two spellings, an empty piece, and a code below zero. -/
def spelledSettings : Settings := { extraCodes := " +07 ,,\t-8,007" }

theorem spelledSettings_wait :
    spelledSettings.validate.1 = .ok () ∧
    (∃ coordinator, spelledSettings.coordinatorSettings = .ok coordinator ∧
      coordinator.waiting.contains 7 = true ∧ coordinator.waiting.contains (-8) = true ∧
      coordinator.waiting.contains 2 = false ∧
      (waitRun coordinator 3 (fun i => .ok (some (if i < 2 then 7 else 2)))
        ⟨false, false, .token⟩ (rounds 3)).state = .ended (.ok ())) ∧
    ∃ fault, ({ extraCodes := "6, +005" } : Settings).validate.1 = .error fault := by
  have hvalid : spelledSettings.validate.1 = .ok () := rfl
  have hseven : spelledSettings.Lists 7 :=
    ⟨" +07 ".toList, by decide, Text.readInt16?_trim.mp rfl⟩
  have height : spelledSettings.Lists (-8) :=
    ⟨"\t-8".toList, by decide, Text.readInt16?_trim.mp rfl⟩
  have hfive : ({ extraCodes := "6, +005" } : Settings).Lists 5 :=
    ⟨" +005".toList, by decide, Text.readInt16?_trim.mp rfl⟩
  obtain ⟨coordinator, hruns⟩ := (accepted_settings_wait_for_no_end spelledSettings).1 hvalid
  have hrefused := (accepted_settings_wait_for_no_end { extraCodes := "6, +005" }).2
    (.inr ⟨5, by decide, hfive⟩)
  refine ⟨hvalid, ⟨coordinator, hruns.isSet, (hruns.waits 7).mpr (.inr (.inr (.inr hseven))),
    (hruns.waits (-8)).mpr (.inr (.inr (.inr height))), (hruns.ends 2 (by decide)).1, ?_⟩,
    hrefused.check⟩
  exact hruns.first 3 (fun i => .ok (some (if i < 2 then 7 else 2))) .token [] 2 2 (by simp)
    (fun i hi => ⟨7, by simp [hi], .inr (.inr (.inr hseven))⟩) rfl (.inl (by decide))

end Settings

end JobDesk
