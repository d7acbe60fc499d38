import JobDesk.Proofs.Outcome
import JobDesk.Proofs.Text.Decimal
import JobDesk.Settings.Basic
import Mathlib.Data.List.TakeWhile

/-!
# CodeList — the grammar of a list of codes

A piece of the list, between two commas, is blank or denotes a code: a sign or none and one digit or
more, with white space around them.  `codesOfPieces_eq_ok_iff` says that just such lists are read,
and that their codes are those of the pieces, in their order.
-/

namespace JobDesk

namespace Text

/-! ## 1. Integers -/

inductive Spells : List Char → Int → Prop
  | unsigned {digits : List Char} (hsome : digits ≠ [])
      (hdigits : ∀ c ∈ digits, c.isDigit = true) :
      Spells digits (Nat.ofDigitChars 10 digits 0)
  | plus {digits : List Char} (hsome : digits ≠ []) (hdigits : ∀ c ∈ digits, c.isDigit = true) :
      Spells ('+' :: digits) (Nat.ofDigitChars 10 digits 0)
  | minus {digits : List Char} (hsome : digits ≠ []) (hdigits : ∀ c ∈ digits, c.isDigit = true) :
      Spells ('-' :: digits) (-(Nat.ofDigitChars 10 digits 0 : Int))

variable {cs text : List Char} {n : Int} {code : Int16}

theorem readDigits?_eq_some_iff {m : Nat} : readDigits? cs = some m ↔
    cs ≠ [] ∧ (∀ c ∈ cs, c.isDigit = true) ∧ Nat.ofDigitChars 10 cs 0 = m := by
  unfold readDigits?
  rw [← digitsValue_eq, ← List.all_eq_true]
  change (if cs.isEmpty || !cs.all Char.isDigit then none else some (digitsValue cs)) = _ ↔ _
  cases cs with
  | nil => simp
  | cons c rest => cases hall : (c :: rest).all Char.isDigit <;> simp

theorem readUnsigned?_eq_some_iff {m : Nat} : readUnsigned? cs = some m ↔
    readDigits? cs = some m ∨ ∃ digits, cs = '+' :: digits ∧ readDigits? digits = some m := by
  unfold readUnsigned?
  split
  · rename_i digits
    -- A text of digits does not begin with a sign.
    have hsign : readDigits? ('+' :: digits) ≠ some m := fun h =>
      absurd ((readDigits?_eq_some_iff.mp h).2.1 '+' List.mem_cons_self) (by decide)
    exact ⟨fun h => .inr ⟨digits, rfl, h⟩, by
      rintro (h | ⟨other, heq, h⟩)
      · exact absurd h hsign
      · exact (List.cons.inj heq).2 ▸ h⟩
  · rename_i hplus
    exact ⟨.inl, by
      rintro (h | ⟨digits, rfl, -⟩)
      · exact h
      · exact absurd rfl (hplus digits)⟩

theorem readSigned?_minus :
    readSigned? ('-' :: cs) = some n ↔ ∃ m : Nat, readDigits? cs = some m ∧ -(m : Int) = n := by
  unfold readSigned?
  cases hread : readDigits? cs <;> simp [hread]

theorem readSigned?_of_ne (h : ∀ digits, cs ≠ '-' :: digits) :
    readSigned? cs = some n ↔ ∃ m : Nat, readUnsigned? cs = some m ∧ (m : Int) = n := by
  unfold readSigned?
  split
  · exact absurd rfl (h _)
  · cases readUnsigned? cs <;> simp

theorem readSigned?_eq_some_iff : readSigned? cs = some n ↔ Spells cs n := by
  constructor
  · intro h
    -- The minus sign is looked for first; what has none is read as a number without a sign.
    by_cases hminus : ∃ digits, cs = '-' :: digits
    · obtain ⟨digits, rfl⟩ := hminus
      obtain ⟨m, hm, rfl⟩ := readSigned?_minus.mp h
      obtain ⟨hsome, hdigits, rfl⟩ := readDigits?_eq_some_iff.mp hm
      exact .minus hsome hdigits
    · obtain ⟨m, hm, rfl⟩ := (readSigned?_of_ne (not_exists.mp hminus)).mp h
      rcases readUnsigned?_eq_some_iff.mp hm with hdigits | ⟨digits, rfl, hdigits⟩
      · obtain ⟨hsome, hall, rfl⟩ := readDigits?_eq_some_iff.mp hdigits
        exact .unsigned hsome hall
      · obtain ⟨hsome, hall, rfl⟩ := readDigits?_eq_some_iff.mp hdigits
        exact .plus hsome hall
  · intro h
    cases h with
    | unsigned hsome hdigits =>
      have hread := readDigits?_eq_some_iff.mpr ⟨hsome, hdigits, rfl⟩
      have hne : ∀ digits, cs ≠ '-' :: digits := by
        rintro digits rfl
        exact absurd (hdigits '-' List.mem_cons_self) (by decide)
      exact (readSigned?_of_ne hne).mpr ⟨_, readUnsigned?_eq_some_iff.mpr (.inl hread), rfl⟩
    | plus hsome hdigits =>
      have hread := readDigits?_eq_some_iff.mpr ⟨hsome, hdigits, rfl⟩
      have hunsigned := readUnsigned?_eq_some_iff.mpr (.inr ⟨_, rfl, hread⟩)
      exact (readSigned?_of_ne (by simp)).mpr ⟨_, hunsigned, rfl⟩
    | minus hsome hdigits =>
      exact readSigned?_minus.mpr ⟨_, readDigits?_eq_some_iff.mpr ⟨hsome, hdigits, rfl⟩, rfl⟩

theorem readInt16?_eq_some_iff : readInt16? cs = some code ↔ Spells cs code.toInt := by
  rw [← readSigned?_eq_some_iff, readInt16?, Option.map_eq_some_iff]
  constructor
  · rintro ⟨n, hn, rfl⟩
    obtain ⟨hread, hrange⟩ := Option.filter_eq_some_iff.mp hn
    rw [Bool.and_eq_true, decide_eq_true_eq, decide_eq_true_eq] at hrange
    rw [Int16.toInt_ofInt_of_le hrange.1 hrange.2]
    exact hread
  · intro hread
    refine ⟨code.toInt, Option.filter_eq_some_iff.mpr ⟨hread, ?_⟩, Int16.ofInt_toInt code⟩
    rw [Bool.and_eq_true, decide_eq_true_eq, decide_eq_true_eq]
    exact ⟨code.le_toInt, code.toInt_lt⟩

/-! ## 2. White space -/

def Blank (cs : List Char) : Prop := ∀ c ∈ cs, isBlank c = true

theorem exists_append_trim (cs : List Char) :
    ∃ front back, Blank front ∧ Blank back ∧ cs = front ++ trim cs ++ back := by
  have hall : ∀ cs : List Char, Blank (cs.takeWhile isBlank) := fun cs c hc =>
    List.mem_takeWhile_imp hc
  refine ⟨cs.takeWhile isBlank, ((cs.dropWhile isBlank).reverse.takeWhile isBlank).reverse,
    hall cs, fun c hc => hall _ c (List.mem_reverse.mp hc), ?_⟩
  rw [List.append_assoc, trim, trimEnd, ← List.reverse_append, List.takeWhile_append_dropWhile,
    List.reverse_reverse, List.takeWhile_append_dropWhile]

structure Trimmed (text : List Char) : Prop where
  head : ∀ c ∈ text.head?, isBlank c = false
  last : ∀ c ∈ text.getLast?, isBlank c = false

theorem trimmed_trim (cs : List Char) : Trimmed (trim cs) := by
  have hdropped : ∀ cs : List Char, ∀ c ∈ (cs.dropWhile isBlank).head?, isBlank c = false := by
    intro cs c hc
    have hhead := List.head?_dropWhile_not isBlank cs
    rw [Option.mem_def.mp hc] at hhead
    exact hhead
  constructor
  · intro c hc
    -- What is taken off at the end leaves the beginning as it is.
    obtain ⟨rest, hrest⟩ := List.reverse_prefix.mpr
      (List.dropWhile_suffix (l := (cs.dropWhile isBlank).reverse) isBlank)
    rw [List.reverse_reverse] at hrest
    refine hdropped cs c ?_
    rw [← hrest, List.head?_append]
    exact Option.or_eq_some_iff.mpr (.inl hc)
  · intro c hc
    rw [trim, trimEnd, List.getLast?_reverse] at hc
    exact hdropped _ c hc

/-- White space is taken off at both ends, down to a text that has none there. -/
theorem trim_append {front back : List Char} (hfront : Blank front) (hback : Blank back)
    (hsome : text ≠ []) (htext : Trimmed text) : trim (front ++ text ++ back) = text := by
  have hfirst : ∀ cs more : List Char, cs ≠ [] → (∀ c ∈ cs.head?, isBlank c = false) →
      (cs ++ more).dropWhile isBlank = cs ++ more := by
    intro cs more hcs hhead
    obtain ⟨c, rest, rfl⟩ := List.exists_cons_of_ne_nil hcs
    exact List.dropWhile_cons_of_neg (by rw [hhead c rfl]; decide)
  rw [trim, trimEnd, List.append_assoc, List.dropWhile_append_of_pos hfront,
    hfirst _ _ hsome htext.head, List.reverse_append,
    List.dropWhile_append_of_pos fun c hc => hback c (List.mem_reverse.mp hc)]
  have hlast := hfirst text.reverse [] (by simpa using hsome) (by simpa using htext.last)
  rw [List.append_nil] at hlast
  rw [hlast, List.reverse_reverse]

theorem trim_eq_nil_iff : trim cs = [] ↔ Blank cs := by
  constructor
  · intro h
    obtain ⟨front, back, hfront, hback, hcs⟩ := exists_append_trim cs
    rw [h, List.append_nil] at hcs
    intro c hc
    rw [hcs] at hc
    rcases List.mem_append.mp hc with hin | hin
    · exact hfront c hin
    · exact hback c hin
  · intro h
    rw [trim, List.dropWhile_eq_nil_iff.mpr h]
    rfl

theorem isBlank_of_isDigit {c : Char} (h : c.isDigit = true) : isBlank c = false := by
  obtain ⟨hlow, hhigh⟩ := Char.isDigit_iff_toNat.mp h
  have hzero : '0'.toNat = 48 := rfl
  have hnine : '9'.toNat = 57 := rfl
  simp [isBlank]
  omega

theorem Spells.notBlank (h : Spells cs n) : ∀ c ∈ cs, isBlank c = false := by
  have hsign : ∀ {digits : List Char} (sign : Char), isBlank sign = false →
      (∀ c ∈ digits, c.isDigit = true) → ∀ c ∈ sign :: digits, isBlank c = false := by
    intro digits sign hsign hdigits
    rw [List.forall_mem_cons]
    exact ⟨hsign, fun c hc => isBlank_of_isDigit (hdigits c hc)⟩
  cases h with
  | unsigned _ hdigits => exact fun c hc => isBlank_of_isDigit (hdigits c hc)
  | plus _ hdigits => exact hsign '+' (by decide) hdigits
  | minus _ hdigits => exact hsign '-' (by decide) hdigits

theorem Spells.trimmed (h : Spells cs n) : Trimmed cs where
  head c hc := h.notBlank c (List.mem_of_mem_head? hc)
  last c hc := h.notBlank c (List.mem_of_mem_getLast? hc)

theorem Spells.ne_nil (h : Spells cs n) : cs ≠ [] := by
  cases h with
  | unsigned hsome _ => exact hsome
  | plus | minus => exact List.cons_ne_nil _ _

/-! ## 3. Pieces -/

/-- A piece of a list denotes a code: white space around a text of it. -/
def Denotes (piece : List Char) (code : Int16) : Prop :=
  ∃ front text back, piece = front ++ text ++ back ∧ Blank front ∧ Blank back ∧
    Spells text code.toInt

theorem readInt16?_trim : readInt16? (trim cs) = some code ↔ Denotes cs code := by
  rw [readInt16?_eq_some_iff]
  constructor
  · intro h
    obtain ⟨front, back, hfront, hback, hcs⟩ := exists_append_trim cs
    exact ⟨front, trim cs, back, hcs, hfront, hback, h⟩
  · rintro ⟨front, text, back, rfl, hfront, hback, hspells⟩
    rw [trim_append hfront hback hspells.ne_nil hspells.trimmed]
    exact hspells

theorem denotes_unique {other : Int16} (h : Denotes cs code) (hother : Denotes cs other) :
    code = other :=
  Option.some.inj ((readInt16?_trim.mpr h).symm.trans (readInt16?_trim.mpr hother))

theorem not_blank_of_denotes (h : Denotes cs code) : ¬ Blank cs := by
  intro hblank
  have hspells := readInt16?_eq_some_iff.mp (readInt16?_trim.mpr h)
  exact hspells.ne_nil (trim_eq_nil_iff.mpr hblank)

end Text

namespace Settings

open Text (Blank Denotes)

/-! ## 4. Lists -/

inductive CodesOf : List (List Char) → List Int16 → Prop
  | nil : CodesOf [] []
  | blank {piece : List Char} {rest : List (List Char)} {codes : List Int16}
      (hblank : Blank piece) (hrest : CodesOf rest codes) : CodesOf (piece :: rest) codes
  | code {piece : List Char} {code : Int16} {rest : List (List Char)} {codes : List Int16}
      (hpiece : Denotes piece code) (hrest : CodesOf rest codes) :
      CodesOf (piece :: rest) (code :: codes)

variable {piece : List Char} {pieces : List (List Char)} {codes : List Int16} {code : Int16}

theorem codesOfPieces_blank (h : Blank piece) (rest : List (List Char)) :
    codesOfPieces (piece :: rest) = codesOfPieces rest := by
  rw [codesOfPieces]
  simp only [Text.trim_eq_nil_iff.mpr h, List.isEmpty_nil, if_true]

theorem codesOfPieces_denotes (h : Denotes piece code) (rest : List (List Char)) :
    codesOfPieces (piece :: rest) = (codesOfPieces rest).map (code :: ·) := by
  have hsome : (Text.trim piece).isEmpty = false :=
    List.isEmpty_eq_false_iff.mpr (mt Text.trim_eq_nil_iff.mp (Text.not_blank_of_denotes h))
  rw [codesOfPieces]
  simp only [hsome, Text.readInt16?_trim.mpr h]
  rfl

theorem codesOfPieces_malformed (hblank : ¬ Blank piece) (h : ∀ code, ¬ Denotes piece code)
    (rest : List (List Char)) : codesOfPieces (piece :: rest) =
      .error (.badCode (String.ofList (Text.trim piece))) := by
  have hsome : (Text.trim piece).isEmpty = false :=
    List.isEmpty_eq_false_iff.mpr (mt Text.trim_eq_nil_iff.mp hblank)
  have hnone : Text.readInt16? (Text.trim piece) = none :=
    Option.eq_none_iff_forall_ne_some.mpr fun code hread => h code (Text.readInt16?_trim.mp hread)
  rw [codesOfPieces]
  simp only [hsome, hnone]
  rfl

/-- Just the lists are read whose pieces are all blank or denote a code. -/
theorem codesOfPieces_eq_ok_iff : codesOfPieces pieces = .ok codes ↔ CodesOf pieces codes := by
  constructor
  · intro h
    -- A piece is blank, denotes a code, or stops the reading of the list.
    induction pieces generalizing codes with
    | nil =>
      obtain rfl := Except.ok.inj h
      exact .nil
    | cons piece rest ih =>
      by_cases hblank : Blank piece
      · rw [codesOfPieces_blank hblank] at h
        exact .blank hblank (ih h)
      by_cases hdenotes : ∃ code, Denotes piece code
      · obtain ⟨code, hcode⟩ := hdenotes
        rw [codesOfPieces_denotes hcode] at h
        obtain ⟨others, hothers, rfl⟩ := ok_of_map h
        exact .code hcode (ih hothers)
      · rw [codesOfPieces_malformed hblank (not_exists.mp hdenotes)] at h
        cases h
  · intro h
    induction h with
    | nil => rfl
    | blank hblank _ ih => rw [codesOfPieces_blank hblank, ih]
    | code hpiece _ ih =>
      rw [codesOfPieces_denotes hpiece, ih]
      rfl

theorem CodesOf.mem_iff (h : CodesOf pieces codes) :
    code ∈ codes ↔ ∃ piece ∈ pieces, Denotes piece code := by
  induction h with
  | nil => simp
  | blank hblank _ ih =>
    rw [ih]
    simp only [List.mem_cons, exists_eq_or_imp]
    exact ⟨.inr, fun h => h.resolve_left fun hcode => Text.not_blank_of_denotes hcode hblank⟩
  | code hpiece _ ih =>
    rw [List.mem_cons, ih]
    simp only [List.mem_cons, exists_eq_or_imp]
    constructor
    · rintro (rfl | hrest)
      · exact .inl hpiece
      · exact .inr hrest
    · rintro (hcode | hrest)
      · exact .inl (Text.denotes_unique hcode hpiece)
      · exact .inr hrest

theorem exists_codesOf_iff : (∃ codes, CodesOf pieces codes) ↔
    ∀ piece ∈ pieces, Blank piece ∨ ∃ code, Denotes piece code := by
  constructor
  · rintro ⟨codes, h⟩
    induction h with
    | nil => exact fun piece hmem => nomatch hmem
    | blank hblank _ ih => exact List.forall_mem_cons.mpr ⟨.inl hblank, ih⟩
    | code hpiece _ ih => exact List.forall_mem_cons.mpr ⟨.inr ⟨_, hpiece⟩, ih⟩
  · intro h
    induction pieces with
    | nil => exact ⟨[], .nil⟩
    | cons piece rest ih =>
      obtain ⟨hpiece, hrest⟩ := List.forall_mem_cons.mp h
      obtain ⟨codes, hcodes⟩ := ih hrest
      rcases hpiece with hblank | ⟨code, hcode⟩
      · exact ⟨codes, .blank hblank hcodes⟩
      · exact ⟨code :: codes, .code hcode hcodes⟩

end Settings

end JobDesk
