import JobDesk.Proofs.Settings.Waiting

/-!
# WaitingCodes — from the text of a list to the codes that are waited at

A list is cut at its commas, and the first of its pieces that is neither blank nor a code is named
when the list is refused.  Codes that are written in decimal are read back, whatever white space and
empty pieces stand between them.  A piece that is no code is reported before any code of an end.
The codes that are read make a set with those of the waiting statuses.
-/

namespace JobDesk

open Text (Blank Denotes Spells Trimmed trim)

/-! ## 1. Texts cut into pieces -/

namespace Text

variable {cs text : List Char} {sep : Char}

structure StripsTo (cs text : List Char) : Prop where
  parts : ∃ front back, cs = front ++ text ++ back ∧ Blank front ∧ Blank back
  trimmed : Trimmed text

theorem trim_eq_iff : trim cs = text ↔ StripsTo cs text := by
  constructor
  · rintro rfl
    obtain ⟨front, back, hfront, hback, hcs⟩ := exists_append_trim cs
    exact ⟨⟨front, back, hcs, hfront, hback⟩, trimmed_trim cs⟩
  · rintro ⟨⟨front, back, rfl, hfront, hback⟩, htext⟩
    by_cases hsome : text = []
    · subst hsome
      rw [List.append_nil]
      exact trim_eq_nil_iff.mpr (List.forall_mem_append.mpr ⟨hfront, hback⟩)
    · exact trim_append hfront hback hsome htext

theorem notMem_of_mem_splitOn {piece : List Char} (h : piece ∈ cs.splitOn sep) : sep ∉ piece := by
  induction cs generalizing piece with
  | nil =>
    rw [List.mem_singleton.mp h]
    exact List.not_mem_nil
  | cons c rest ih =>
    rw [List.splitOn_cons_eq_if_modifyHead] at h
    by_cases hc : c = sep
    · rw [if_pos (beq_iff_eq.mpr hc)] at h
      rcases List.mem_cons.mp h with rfl | hlater
      · exact List.not_mem_nil
      · exact ih hlater
    · rw [if_neg (mt beq_iff_eq.mp hc)] at h
      -- The character joins the first piece, and the others are those of the rest.
      obtain ⟨first, others, hrest⟩ := List.exists_cons_of_ne_nil (List.splitOn_ne_nil sep rest)
      rw [hrest] at h ih
      rcases List.mem_cons.mp h with rfl | hlater
      · exact List.not_mem_cons_of_ne_of_not_mem (Ne.symm hc) (ih List.mem_cons_self)
      · exact ih (List.mem_cons_of_mem first hlater)

theorem spells_toString (n : Int) : Spells (toString n).toList n :=
  readSigned?_eq_some_iff.mp (readSigned?_toString n)

end Text

namespace Settings

open Text (StripsTo)

structure CutInto (text : String) (pieces : List (List Char)) : Prop where
  joined : text.toList = [','].intercalate pieces
  commaFree : ∀ piece ∈ pieces, ',' ∉ piece
  ne_nil : pieces ≠ []

variable {piece name : List Char} {pieces rest : List (List Char)}
variable {codes : List Int16} {code : Int16} {fault : SettingsFault} {settings : Settings}

theorem cutInto_iff {text : String} : CutInto text pieces ↔ pieces = text.toList.splitOn ',' := by
  constructor
  · rintro ⟨hjoined, hcommaFree, hsome⟩
    rw [hjoined, List.splitOn_intercalate ',' hcommaFree hsome]
  · rintro rfl
    exact ⟨(List.intercalate_splitOn ',').symm, fun _ => Text.notMem_of_mem_splitOn,
      List.splitOn_ne_nil ',' _⟩

/-! ## 2. The first fault -/

/-- A piece that can stand in a list: it is blank, or it denotes a code. -/
def IsEntry (piece : List Char) : Prop := Blank piece ∨ ∃ code, Denotes piece code

/-- The first piece that cannot stand in a list, without the white space around it. -/
def FirstFault (pieces : List (List Char)) (name : List Char) : Prop :=
  ∃ before piece after, pieces = before ++ piece :: after ∧ (∀ entry ∈ before, IsEntry entry) ∧
    ¬ IsEntry piece ∧ StripsTo piece name

theorem not_firstFault_nil : ¬ FirstFault [] name := by
  rintro ⟨before, piece, after, hpieces, -⟩
  exact List.append_ne_nil_of_right_ne_nil before (List.cons_ne_nil piece after) hpieces.symm

theorem firstFault_cons_of_entry (h : IsEntry piece) :
    FirstFault (piece :: rest) name ↔ FirstFault rest name := by
  constructor
  · rintro ⟨before, bad, after, hpieces, hbefore, hbad, hname⟩
    cases before with
    | nil =>
      obtain ⟨rfl, -⟩ := List.cons.inj hpieces
      exact absurd h hbad
    | cons first before =>
      obtain ⟨-, rfl⟩ := List.cons.inj hpieces
      exact ⟨before, bad, after, rfl, (List.forall_mem_cons.mp hbefore).2, hbad, hname⟩
  · rintro ⟨before, bad, after, rfl, hbefore, hbad, hname⟩
    exact ⟨piece :: before, bad, after, rfl, List.forall_mem_cons.mpr ⟨h, hbefore⟩, hbad, hname⟩

theorem firstFault_cons_of_not_entry (h : ¬ IsEntry piece) :
    FirstFault (piece :: rest) name ↔ StripsTo piece name := by
  constructor
  · rintro ⟨before, bad, after, hpieces, hbefore, -, hname⟩
    cases before with
    | nil =>
      obtain ⟨rfl, -⟩ := List.cons.inj hpieces
      exact hname
    | cons first before =>
      obtain ⟨rfl, -⟩ := List.cons.inj hpieces
      exact absurd (hbefore piece List.mem_cons_self) h
  · exact fun hname => ⟨[], piece, rest, rfl, fun _ hmem => absurd hmem List.not_mem_nil, h, hname⟩

/-- A list is refused for the first of its pieces that cannot stand in it. -/
theorem codesOfPieces_eq_error_iff : codesOfPieces pieces = .error fault ↔
    ∃ name, FirstFault pieces name ∧ fault = .badCode (String.ofList name) := by
  induction pieces with
  | nil => exact iff_of_false (fun h => nomatch h) fun ⟨_, h, _⟩ => not_firstFault_nil h
  | cons piece rest ih =>
    by_cases hblank : Blank piece
    · simp only [codesOfPieces_blank hblank, firstFault_cons_of_entry (.inl hblank), ih]
    by_cases hdenotes : ∃ code, Denotes piece code
    · obtain ⟨code, hcode⟩ := hdenotes
      simp only [codesOfPieces_denotes hcode, firstFault_cons_of_entry (.inr ⟨code, hcode⟩), ← ih]
      cases codesOfPieces rest <;> simp [Except.map]
    · simp only [codesOfPieces_malformed hblank (not_exists.mp hdenotes),
        firstFault_cons_of_not_entry (not_or.mpr ⟨hblank, hdenotes⟩), ← Text.trim_eq_iff,
        exists_eq_left', Except.error.injEq]
      exact eq_comm

/-! ## 3. Written lists -/

/-- A piece of a list as somebody writes it: a code in decimal, or none, and white space on both
sides. -/
structure WrittenPiece where
  front : List Char
  code? : Option Int16
  back : List Char
  blank_front : Blank front
  blank_back : Blank back

namespace WrittenPiece

def digits : Option Int16 → List Char
  | some code => (toString code.toInt).toList
  | none => []

def text (written : WrittenPiece) : List Char :=
  written.front ++ digits written.code? ++ written.back

theorem comma_notMem_text (written : WrittenPiece) : ',' ∉ written.text := by
  have hblank : ∀ cs, Blank cs → ',' ∉ cs := fun cs h hmem => absurd (h ',' hmem) (by decide)
  have hdigits : ',' ∉ digits written.code? := by
    cases written.code? with
    | none => exact List.not_mem_nil
    | some code =>
      intro hmem
      rcases Text.mem_toString hmem with hsign | hdigit
      · exact absurd hsign (by decide)
      · exact absurd hdigit (by decide)
  simp only [text, List.mem_append, not_or]
  exact ⟨⟨hblank _ written.blank_front, hdigits⟩, hblank _ written.blank_back⟩

end WrittenPiece

theorem codesOf_written (list : List WrittenPiece) :
    CodesOf (list.map WrittenPiece.text) (list.filterMap WrittenPiece.code?) := by
  induction list with
  | nil => exact .nil
  | cons written rest ih =>
    obtain ⟨front, code?, back, hfront, hback⟩ := written
    cases code? with
    | none =>
      refine .blank ?_ ih
      simp only [WrittenPiece.text, WrittenPiece.digits, List.append_nil]
      exact List.forall_mem_append.mpr ⟨hfront, hback⟩
    | some code =>
      exact .code ⟨front, _, back, rfl, hfront, hback, Text.spells_toString code.toInt⟩ ih

def writtenList (list : List WrittenPiece) : String :=
  String.ofList ([','].intercalate (list.map WrittenPiece.text))

theorem codeList_writtenList (list : List WrittenPiece) :
    codeList (writtenList list) = .ok (list.filterMap WrittenPiece.code?) := by
  rw [codeList, writtenList, String.toList_ofList]
  by_cases hsome : list = []
  · subst hsome
    rfl
  · rw [List.splitOn_intercalate ',' _ (mt List.map_eq_nil_iff.mp hsome)]
    · exact codesOfPieces_eq_ok_iff.mpr (codesOf_written list)
    · intro piece hmem
      obtain ⟨written, -, rfl⟩ := List.mem_map.mp hmem
      exact written.comma_notMem_text

/-! ## 4. Codes of ends -/

def FirstEnd (codes : List Int16) (code : Int16) : Prop :=
  ∃ before after, codes = before ++ code :: after ∧ (∀ earlier ∈ before, ¬ IsEnd earlier) ∧
    IsEnd code

theorem find?_eq_some_iff_firstEnd :
    codes.find? isTerminalCode = some code ↔ FirstEnd codes code := by
  rw [List.find?_eq_some_iff_append, isTerminalCode_iff]
  constructor
  · rintro ⟨hend, before, after, hcodes, hbefore⟩
    refine ⟨before, after, hcodes, fun earlier hmem hearlier => ?_, hend⟩
    simpa [isTerminalCode_iff.mpr hearlier] using hbefore earlier hmem
  · rintro ⟨before, after, hcodes, hbefore, hend⟩
    refine ⟨hend, before, after, hcodes, fun earlier hmem => ?_⟩
    simpa using mt isTerminalCode_iff.mp (hbefore earlier hmem)

/-- The further codes are refused for a piece that is no code, and only then for the first code of
an end. -/
theorem extraWaitingCodes_eq_error_iff : settings.extraWaitingCodes = .error fault ↔
    codeList settings.extraCodes = .error fault ∨
      ∃ codes code, codeList settings.extraCodes = .ok codes ∧ FirstEnd codes code ∧
        fault = .terminalCode code := by
  unfold extraWaitingCodes
  cases hread : codeList settings.extraCodes with
  | error other => simp [bind, Except.bind]
  | ok codes =>
    simp only [bind, Except.bind, ← find?_eq_some_iff_firstEnd]
    cases hfind : codes.find? isTerminalCode with
    | none => simp [pure, Except.pure, hfind]
    | some code => simp [throw, throwThe, MonadExceptOf.throw, hfind, eq_comm]

/-- How the text of a list is read. Cut at its commas in the only way there is, it is read if and
only if each piece is blank or denotes a code, as the codes of its pieces in their order; otherwise
it is refused with the first piece of another kind, without the white space around it. -/
structure ReadByPieces (text : String) (pieces : List (List Char)) : Prop where
  cut : ∀ others, CutInto text others ↔ others = pieces
  codes : ∀ codes, codeList text = .ok codes ↔ CodesOf pieces codes
  accepted : (∃ codes, codeList text = .ok codes) ↔ ∀ piece ∈ pieces, IsEntry piece
  refused : ∀ fault, codeList text = .error fault ↔ ∃ name, FirstFault pieces name ∧
    fault = .badCode (String.ofList name) ∧
    fault.message = "`" ++ String.ofList name ++ "` is not a valid status code"

theorem codeList_readByPieces (text : String) : ReadByPieces text (text.toList.splitOn ',') where
  cut _ := cutInto_iff
  codes _ := codesOfPieces_eq_ok_iff
  accepted := (exists_congr fun _ => codesOfPieces_eq_ok_iff).trans exists_codesOf_iff
  refused fault := by
    rw [codeList, codesOfPieces_eq_error_iff]
    refine exists_congr fun name => and_congr_right fun _ => ?_
    exact ⟨fun h => ⟨h, h ▸ rfl⟩, And.left⟩

/-- How the further codes of some settings are read: a code of an end is reported only where all
pieces can stand, and then the first one is. -/
structure ReadsExtraCodes (settings : Settings) : Prop where
  accepted : ∀ codes, settings.extraWaitingCodes = .ok codes ↔
    codeList settings.extraCodes = .ok codes ∧ ∀ code ∈ codes, ¬ IsEnd code
  refused : ∀ fault, settings.extraWaitingCodes = .error fault ↔
    codeList settings.extraCodes = .error fault ∨
      ∃ codes code, codeList settings.extraCodes = .ok codes ∧ FirstEnd codes code ∧
        fault = .terminalCode code

/-- A list of codes is read by its grammar. So one that is written in decimal is read back, whatever
white space and empty pieces are in it. -/
theorem code_lists_read_by_grammar :
    (∀ text : String, ∃ pieces, ReadByPieces text pieces) ∧
    (∀ list : List WrittenPiece,
      codeList (writtenList list) = .ok (list.filterMap WrittenPiece.code?)) ∧
    ∀ settings : Settings, ReadsExtraCodes settings := by
  refine ⟨fun text => ⟨_, codeList_readByPieces text⟩, codeList_writtenList,
    fun settings => ⟨fun codes => ?_, fun fault => extraWaitingCodes_eq_error_iff⟩⟩
  rw [codeList_eq_ok_iff]
  exact extraWaitingCodes_eq_ok_iff

/-- A list is written with white space and empty pieces and read back; a piece that is no code is
reported before a code of an end in front of it. -/
theorem spelled_lists_read :
    codeList "-32768 ,,\t 7,  ,7" = .ok [-32768, 7, 7] ∧
      codeList "5, +32768 ,x" = .error (.badCode "+32768") ∧
      ({ extraCodes := "5, +32768 ,x" } : Settings).extraWaitingCodes =
        .error (.badCode "+32768") ∧
      ({ extraCodes := "7, 3, 2" } : Settings).extraWaitingCodes = .error (.terminalCode 3) := by
  obtain ⟨-, hwritten, hsettings⟩ := code_lists_read_by_grammar
  have hblank : ∀ cs : List Char, cs.all Text.isBlank = true → Blank cs := fun cs =>
    List.all_eq_true.mp
  have hlist := hwritten [⟨[], some (-32768), [' '], hblank _ rfl, hblank _ rfl⟩,
    ⟨[], none, [], hblank _ rfl, hblank _ rfl⟩,
    ⟨['\t', ' '], some 7, [], hblank _ rfl, hblank _ rfl⟩,
    ⟨[' ', ' '], none, [], hblank _ rfl, hblank _ rfl⟩,
    ⟨[], some 7, [], hblank _ rfl, hblank _ rfl⟩]
  have hbad : codeList "5, +32768 ,x" = .error (.badCode "+32768") := rfl
  refine ⟨hlist, hbad, ((hsettings _).refused _).mpr (.inl hbad),
    ((hsettings _).refused _).mpr (.inr ?_)⟩
  exact ⟨[7, 3, 2], 3, rfl, find?_eq_some_iff_firstEnd.mp rfl, rfl⟩

end Settings

/-! ## 5. Sets -/

open WaitingSet (ofCodes standard)

/-- Waiting sets are sets. Whatever codes one is made of, in any order and any number of times, it
has each of them once and in increasing order, and looking up finds them and no others; sets of the
same codes are equal, and only those. Made of the standard codes and others it has the codes of
both, and of these the coordinator's is made. -/
theorem WaitingSet.ofCodes_is_set (codes others : List Int16) :
    (ofCodes codes).codes.toList.Pairwise (· < ·) ∧
    (∀ code, code ∈ (ofCodes codes).codes.toList ↔ code ∈ codes) ∧
    (∀ code, (ofCodes codes).contains code = true ↔ code ∈ codes) ∧
    ((ofCodes codes == ofCodes others) = true ↔ ∀ code, code ∈ codes ↔ code ∈ others) ∧
    (∀ code, (ofCodes (standard.codes.toList ++ others)).contains code = true ↔
      standard.contains code = true ∨ code ∈ others) ∧
    ∀ settings : Settings, settings.extraWaitingCodes = .ok others → ∃ coordinator,
      settings.coordinatorSettings = .ok coordinator ∧
        coordinator.waiting = ofCodes (standard.codes.toList ++ others) := by
  refine ⟨(ofCodes codes).increasing, fun code => mem_ofCodes, fun code => contains_ofCodes, ?_,
    fun code => ?_, fun settings h => ⟨_, Settings.coordinatorSettings_eq h, rfl⟩⟩
  · rw [beq_iff_eq, ofCodes_eq_iff]
  · rw [contains_ofCodes, contains_iff, List.mem_append]

/-- Codes that are given twice, out of order and at both ends of their range. -/
theorem WaitingSet.ofCodes_is_set_of_repeated :
    (ofCodes [4, -32768, 1, 4, 32767]).codes.toList = [-32768, 1, 4, 32767] ∧
      (ofCodes [4, -32768, 1, 4, 32767] == ofCodes [32767, 4, 1, -32768]) = true ∧
      ∃ coordinator, ({ extraCodes := "7, 8," } : Settings).coordinatorSettings = .ok coordinator ∧
        coordinator.waiting.contains 8 = true ∧ coordinator.waiting.contains 2 = false := by
  have hset := WaitingSet.ofCodes_is_set [4, -32768, 1, 4, 32767] [32767, 4, 1, -32768]
  have hothers := WaitingSet.ofCodes_is_set [] [7, 8]
  obtain ⟨coordinator, hcoordinator, hwaiting⟩ :=
    hothers.2.2.2.2.2 { extraCodes := "7, 8," } rfl
  refine ⟨by decide, hset.2.2.2.1.mpr fun code => ?_, coordinator, hcoordinator, ?_, ?_⟩
  · simp only [List.mem_cons, List.not_mem_nil, or_false]
    grind
  · rw [hwaiting]
    exact (hothers.2.2.2.2.1 8).mpr (.inr (by decide))
  · rw [hwaiting, Bool.eq_false_iff]
    refine mt (hothers.2.2.2.2.1 2).mp ?_
    rw [contains_iff]
    decide

end JobDesk
