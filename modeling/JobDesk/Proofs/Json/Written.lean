import JobDesk.Json.Print
import JobDesk.Json.Shape
import JobDesk.Proofs.Text.Decimal
import Mathlib.Data.List.TakeDrop

/-!
# Written — texts that were printed are scanned again

A string that was printed is scanned as the string that it was, whatever stands behind it, and is
passed over where nobody looks at it.  So is an integer, if it is known to end where it does.
-/

namespace JobDesk.Json

/-! ## 1. Strings -/

def escaped (s : String) : List Char := s.toList.flatMap escapeChar

def quoted (s : String) : List Char := '"' :: (escaped s ++ ['"'])

theorem toList_foldl_push (cs : List Char) (made : String) :
    (cs.foldl String.push made).toList = made.toList ++ cs := by
  induction cs generalizing made with
  | nil => exact (List.append_nil _).symm
  | cons c cs ih =>
    rw [List.foldl_cons, ih, String.toList_push, List.append_assoc, List.singleton_append]

theorem toList_printString (s made : String) :
    (printString s made).toList = made.toList ++ quoted s := by
  have hfold : ∀ (cs : List Char) (made : String),
      (cs.foldl (fun made c => (escapeChar c).foldl String.push made) made).toList =
        made.toList ++ cs.flatMap escapeChar := by
    intro cs
    induction cs with
    | nil => exact fun made => (List.append_nil _).symm
    | cons c cs ih =>
      intro made
      rw [List.foldl_cons, ih, toList_foldl_push, List.flatMap_cons, List.append_assoc]
  rw [printString, String.toList_push, String.foldl_eq_foldl_toList, hfold, String.toList_push]
  simp only [quoted, escaped, List.append_assoc, List.cons_append, List.nil_append]

/-- The forms that a printed character has: an escape with a letter, an escape with digits, or the
character itself. -/
theorem escapeChar_cases (c : Char) :
    (∃ letter, escapeChar c = ['\\', letter] ∧ letter ≠ 'u' ∧ letterEscape? letter = some c) ∨
    (∃ a b, escapeChar c = ['\\', 'u', '0', '0', a, b] ∧
      hexUnit? '0' '0' a b = some c.toNat ∧ c.toNat < 32) ∨
    (escapeChar c = [c] ∧ c ≠ '"' ∧ c ≠ '\\' ∧ ¬ c.toNat < 32) := by
  by_cases hletter : c ∈ ['"', '\\', '\x08', '\x0c', '\n', '\r', '\t']
  · simp only [List.mem_cons, List.not_mem_nil, or_false] at hletter
    rcases hletter with rfl | rfl | rfl | rfl | rfl | rfl | rfl
    all_goals exact .inl ⟨_, rfl, by decide, rfl⟩
  · simp only [List.mem_cons, List.not_mem_nil, or_false, not_or] at hletter
    obtain ⟨hquote, hslash, hb, hf, hn, hr, ht⟩ := hletter
    rw [escapeChar, if_neg hquote, if_neg hslash, if_neg hb, if_neg hf, if_neg hn, if_neg hr,
      if_neg ht]
    by_cases hcontrol : c.toNat < 32
    · have hunit : ∀ n : Fin 32, hexUnit? '0' '0' (hexDigit (n / 16)) (hexDigit (n % 16)) =
          some n.val := by decide
      rw [if_pos hcontrol]
      exact .inr (.inl ⟨_, _, rfl, hunit ⟨c.toNat, hcontrol⟩, hcontrol⟩)
    · rw [if_neg hcontrol]
      exact .inr (.inr ⟨rfl, hquote, hslash, hcontrol⟩)

theorem scanStringFrom_escapeChar (c : Char) (read : String) (rest : List Char) :
    scanStringFrom read (escapeChar c ++ rest) = scanStringFrom (read.push c) rest := by
  rcases escapeChar_cases c with ⟨letter, heq, hu, hletter⟩ | ⟨a, b, heq, hunit, hcontrol⟩ |
    ⟨heq, hquote, hslash, hcontrol⟩
  · rw [heq, List.cons_append, List.cons_append, List.nil_append]
    rw [scanStringFrom, hletter]
    exact fun _ _ _ _ _ hfirst _ => hu hfirst
  · have hlow : isLowHalf c.toNat = false :=
      Bool.and_eq_false_iff.mpr (.inl (decide_eq_false (by omega)))
    have hhigh : isHighHalf c.toNat = false :=
      Bool.and_eq_false_iff.mpr (.inl (decide_eq_false (by omega)))
    rw [heq]
    simp only [List.cons_append, List.nil_append]
    rw [scanStringFrom, hunit]
    simp only [hlow, hhigh, Char.ofNat_toNat]
    rfl
  · rw [heq, List.cons_append, List.nil_append, scanStringFrom, if_neg]
    · simp [hslash, hcontrol]
    · exact hquote
    · exact fun _ _ _ _ _ hfirst _ => hslash hfirst
    · exact fun _ _ hfirst _ => hslash hfirst

theorem skipStringFrom_escapeChar (c : Char) (rest : List Char) :
    skipStringFrom (escapeChar c ++ rest) = skipStringFrom rest := by
  rcases escapeChar_cases c with ⟨letter, heq, hu, hletter⟩ | ⟨a, b, heq, hunit, hcontrol⟩ |
    ⟨heq, hquote, hslash, hcontrol⟩
  · rw [heq, List.cons_append, List.cons_append, List.nil_append]
    rw [skipStringFrom, hletter]
    · rfl
    · exact fun _ _ _ _ _ hfirst _ => hu hfirst
  · rw [heq]
    simp only [List.cons_append, List.nil_append]
    rw [skipStringFrom, hunit]
    rfl
  · rw [heq, List.cons_append, List.nil_append, skipStringFrom, if_neg]
    · simp [hslash, hcontrol]
    · exact hquote
    · exact fun _ _ _ _ _ hfirst _ => hslash hfirst
    · exact fun _ _ hfirst _ => hslash hfirst

theorem scanString_quoted (s : String) (rest : List Char) :
    scanString (quoted s ++ rest) = .ok (s, rest) := by
  have hscan : ∀ (cs : List Char) (read : String),
      scanStringFrom read (cs.flatMap escapeChar ++ '"' :: rest) =
        .ok (cs.foldl String.push read, rest) := by
    intro cs
    induction cs with
    | nil => exact fun read => by rw [List.flatMap_nil, List.nil_append, scanStringFrom]; rfl
    | cons c cs ih =>
      intro read
      rw [List.flatMap_cons, List.append_assoc, scanStringFrom_escapeChar, ih, List.foldl_cons]
  have hsame : s.toList.foldl String.push "" = s := by
    rw [← String.toList_inj, toList_foldl_push]
    rfl
  rw [quoted, List.cons_append, List.append_assoc, List.singleton_append, scanString, escaped,
    hscan, hsame]

theorem skipStringFrom_escaped (s : String) (rest : List Char) :
    skipStringFrom (escaped s ++ '"' :: rest) = .ok rest := by
  unfold escaped
  induction s.toList with
  | nil => rw [List.flatMap_nil, List.nil_append, skipStringFrom]
  | cons c cs ih => rw [List.flatMap_cons, List.append_assoc, skipStringFrom_escapeChar, ih]

/-! ## 2. Values -/

theorem scanText_quoted (s : String) (rest : List Char) :
    scanText (quoted s ++ rest) = .ok (s, rest) := by
  have hstring := scanString_quoted s rest
  rw [quoted, List.cons_append, scanString] at hstring
  rw [quoted, List.cons_append, scanText, scanJudged, scanKind, scanValue, hstring]
  · rfl
  · exact nofun
  · exact nofun

def Passes (value : List Char) : Prop :=
  ∀ (round : Char) (depth : List Char) (close : Char) (rest : List Char),
    close = ',' ∨ close = '\x7d' →
    skipValue (round :: depth) (value ++ close :: rest) = .ok ((), close :: rest)

theorem passes_quoted (s : String) : Passes (quoted s) := by
  intro round depth close rest _
  have hskip := skipStringFrom_escaped s (close :: rest)
  rw [quoted, List.cons_append, List.append_assoc, List.singleton_append, skipValue, hskip]
  rfl

theorem scanDigits_append {digits rest : List Char} {close : Char} (hne : digits ≠ [])
    (hdigits : digits.all Text.isDigit = true) (hclose : Text.isDigit close = false) :
    scanDigits (digits ++ close :: rest) = .ok (digits, close :: rest) := by
  have hspan : (digits ++ close :: rest).span Text.isDigit = (digits, close :: rest) := by
    rw [List.all_eq_true] at hdigits
    rw [List.span_eq_takeWhile_dropWhile, List.takeWhile_append_of_pos hdigits,
      List.dropWhile_append_of_pos hdigits, List.takeWhile_cons_of_neg (by simp [hclose]),
      List.dropWhile_cons_of_neg (by simp [hclose]), List.append_nil]
  rw [scanDigits, hspan]
  split
  · rename_i heq
    exact absurd (Prod.mk.inj heq).1 hne
  · rename_i heq
    obtain ⟨rfl, rfl⟩ := Prod.mk.inj heq
    rfl

theorem scanWhole_toDigits (n : Nat) {rest : List Char} {close : Char}
    (hclose : Text.isDigit close = false) :
    scanWhole (Nat.toDigits 10 n ++ close :: rest) = .ok (Nat.toDigits 10 n, close :: rest) := by
  have hdigits := Text.all_isDigit_toDigits n
  unfold scanWhole
  split
  · rename_i text heq
    -- A number that begins with zero is zero, and nothing but zero is written for it.
    have hzero : n = 0 := by
      refine Text.eq_zero_of_head?_toDigits ?_
      cases hcons : Nat.toDigits 10 n with
      | nil => exact absurd hcons Nat.toDigits_ne_nil
      | cons c cs =>
        rw [hcons] at heq
        exact congrArg some (List.cons.inj heq).1
    subst hzero
    rw [Nat.toDigits_zero] at heq ⊢
    rw [← (List.cons.inj heq).2]
    exact if_neg (by simp [hclose])
  · exact scanDigits_append Nat.toDigits_ne_nil hdigits hclose

/-- The digits of a number behind its sign, up to where the number is known to end. -/
theorem scanNumberForm_toDigits (negative : Bool) (n : Nat) {rest : List Char} {close : Char}
    (hclose : close = ',' ∨ close = '\x7d') :
    let sign := if negative then ['-'] else []
    scanNumberForm (sign ++ (Nat.toDigits 10 n ++ close :: rest)) =
      .ok (⟨negative, Nat.toDigits 10 n, none, none⟩, close :: rest) := by
  have hwhole : scanWhole (Nat.toDigits 10 n ++ close :: rest) =
      .ok (Nat.toDigits 10 n, close :: rest) :=
    scanWhole_toDigits n (by rcases hclose with rfl | rfl <;> rfl)
  have hfraction : scanFraction (close :: rest) = .ok (none, close :: rest) := by
    rcases hclose with rfl | rfl <;> rfl
  have hexponent : scanExponent (close :: rest) = .ok (none, close :: rest) := by
    rcases hclose with rfl | rfl <;> rfl
  have hsign : ((Nat.toDigits 10 n ++ close :: rest).head? == some '-') = false := by
    have hdigits := Text.all_isDigit_toDigits n
    cases hcons : Nat.toDigits 10 n with
    | nil => exact absurd hcons Nat.toDigits_ne_nil
    | cons c cs =>
      rw [hcons, List.all_cons, Bool.and_eq_true] at hdigits
      refine beq_eq_false_iff_ne.mpr fun heq => ?_
      rw [Option.some.inj heq] at hdigits
      exact absurd hdigits.1 (by decide)
  cases negative with
  | true =>
    simp only [if_true, List.singleton_append, scanNumberForm, List.head?_cons, beq_self_eq_true,
      List.drop_one, List.tail_cons, hwhole, bind, Except.bind, hfraction, hexponent, pure,
      Except.pure]
  | false =>
    simp only [Bool.false_eq_true, if_false, List.nil_append, scanNumberForm, hsign, hwhole, bind,
      Except.bind, hfraction, hexponent, pure, Except.pure]

theorem skipValue_number {c : Char} (hfirst : c = '-' ∨ Text.isDigit c = true) (round : Char)
    (depth text : List Char) : skipValue (round :: depth) (c :: text) = skipNumber (c :: text) := by
  have hnone : ['n', 't', 'f', '"', '[', '\x7b'].all
      (fun other => other != '-' && !Text.isDigit other) = true := by decide
  have hother : ∀ other ∈ ['n', 't', 'f', '"', '[', '\x7b'], c ≠ other := by
    intro other hmem heq
    subst heq
    have hneither := List.all_eq_true.mp hnone c hmem
    rcases hfirst with rfl | hdigit
    · cases hneither
    · rw [hdigit, Bool.not_true, Bool.and_false] at hneither
      cases hneither
  simp only [List.forall_mem_cons] at hother
  obtain ⟨hn, ht, hf, hquote, hitems, hmembers, -⟩ := hother
  rw [skipValue]
  all_goals exact fun _ heq => absurd (List.cons.inj heq).1 (by assumption)

theorem passes_integer (n : Int) : Passes (toString n).toList := by
  intro round depth close rest hclose
  have hskip : skipNumber ((toString n).toList ++ close :: rest) = .ok ((), close :: rest) := by
    rcases n with m | m
    · show skipNumber ((toString (m : Int)).toList ++ close :: rest) = _
      rw [Text.toList_toString_ofNat, skipNumber]
      exact congrArg _ (scanNumberForm_toDigits false m hclose)
    · rw [Int.negSucc_eq, ← Int.natCast_succ, Text.toList_toString_neg, skipNumber]
      exact congrArg _ (scanNumberForm_toDigits true (m + 1) hclose)
  have hmem := fun c => Text.mem_toString (n := n) (c := c)
  cases hcons : (toString n).toList with
  | nil => exact absurd (String.toList_eq_nil_iff.mp hcons) (Text.toString_ne_empty n)
  | cons c cs =>
    rw [hcons] at hskip hmem
    rw [List.cons_append, skipValue_number (hmem c List.mem_cons_self)]
    exact hskip

end JobDesk.Json
