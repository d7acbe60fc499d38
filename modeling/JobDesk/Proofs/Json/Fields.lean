import JobDesk.Proofs.Json.Written
import JobDesk.Proofs.Outcome

/-!
# Fields — members of a printed object as fields of a record

A record is read from an object member by member: one that is a field is scanned, and any other is
passed over if its value can be.
-/

namespace JobDesk.Json

variable {δ α : Type} {fields : List (RecordField δ)} {draft next : δ} {key : String}
  {value rest : List Char} {close : Char}

/-! ## 1. Blanks -/

theorem skipBlanks_cons {c : Char} (h : isBlank c = false) (text : List Char) :
    skipBlanks (c :: text) = c :: text :=
  List.dropWhile_cons_of_neg (by simp [h])

theorem skipBlanks_quoted (s : String) (rest : List Char) :
    skipBlanks (quoted s ++ rest) = quoted s ++ rest := by
  rw [quoted, List.cons_append]
  exact skipBlanks_cons rfl _

theorem skipBlanks_integer (n : Int) (rest : List Char) :
    skipBlanks ((toString n).toList ++ rest) = (toString n).toList ++ rest := by
  cases hcons : (toString n).toList with
  | nil => exact absurd (String.toList_eq_nil_iff.mp hcons) (Text.toString_ne_empty n)
  | cons c cs =>
    have hfirst : c = '-' ∨ Text.isDigit c = true :=
      Text.mem_toString (hcons ▸ List.mem_cons_self)
    refine skipBlanks_cons (Bool.eq_false_iff.mpr fun hblank => ?_) _
    simp only [isBlank, Bool.or_eq_true, beq_iff_eq] at hblank
    rcases hblank with ((rfl | rfl) | rfl) | rfl
    all_goals exact absurd hfirst (by decide)

/-! ## 2. Members -/

theorem scanFieldValue_colon (scan : Scanner α) {text : List Char}
    (hstart : skipBlanks text = text) : scanFieldValue scan (':' :: text) = scan text := by
  rw [scanFieldValue, skipBlanks_cons rfl]
  exact congrArg scan hstart

theorem scanField_known {field : RecordField δ} (hfield : fields.find? (·.name == key) = some field)
    (hunread : field.isRead draft = false) {text : List Char} (hstart : skipBlanks text = text)
    (hscan : field.scan draft text = .ok (next, rest)) :
    scanField fields draft (quoted key ++ ':' :: text) = .ok (next, rest) := by
  simp only [scanField, scanString_quoted, bind, Except.bind, hfield, hunread,
    scanFieldValue_colon _ hstart, hscan]
  rfl

theorem scanField_unknown (hfield : fields.find? (·.name == key) = none) (hvalue : Passes value)
    (hstart : skipBlanks (value ++ close :: rest) = value ++ close :: rest)
    (hclose : close = ',' ∨ close = '\x7d') :
    scanField fields draft (quoted key ++ ':' :: (value ++ close :: rest)) =
      .ok (draft, close :: rest) := by
  simp only [scanField, scanString_quoted, bind, Except.bind, hfield,
    scanFieldValue_colon _ hstart, hvalue ':' _ close rest hclose]
  rfl

theorem scanFieldsFrom_comma {text : List Char} (round : Char) (rounds : List Char)
    (hstart : skipBlanks text = text) (h : scanField fields draft text = .ok (next, ',' :: rest)) :
    scanFieldsFrom fields (round :: rounds) draft text =
      scanFieldsFrom fields rounds next rest := by
  simp only [scanFieldsFrom, hstart, h, bind, Except.bind]
  rw [skipBlanks_cons rfl]
  rfl

theorem scanFieldsFrom_close {text : List Char} (round : Char) (rounds : List Char)
    (hstart : skipBlanks text = text)
    (h : scanField fields draft text = .ok (next, '\x7d' :: rest)) :
    scanFieldsFrom fields (round :: rounds) draft text = .ok (next, rest) := by
  simp only [scanFieldsFrom, hstart, h, bind, Except.bind]
  rw [skipBlanks_cons rfl]
  rfl

theorem scanFieldsFrom_rounds (rounds : List Char) {more text : List Char} {result : δ × List Char}
    (h : scanFieldsFrom fields rounds draft text = .ok result)
    (hlength : rounds.length ≤ more.length) :
    scanFieldsFrom fields more draft text = .ok result := by
  induction rounds generalizing more draft text with
  | nil => cases h
  | cons round rounds ih =>
    cases more with
    | nil => cases hlength
    | cons other more =>
      obtain ⟨⟨next, rest⟩, hfield, h⟩ := ok_of_bind h
      simp only [scanFieldsFrom, hfield, bind, Except.bind]
      dsimp only at h
      split at h
      · exact ih h (Nat.le_of_succ_le_succ hlength)
      · exact h
      · cases h

/-! ## 3. Records -/

theorem scanDraft_object {name : String} {text : List Char}
    (hstart : skipBlanks (quoted key ++ text) = quoted key ++ text) :
    scanDraft name fields draft ('\x7b' :: (quoted key ++ text)) =
      scanFieldsFrom fields (quoted key ++ text) draft (quoted key ++ text) := by
  rw [scanDraft, hstart]
  rfl

end JobDesk.Json
