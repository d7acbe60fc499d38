import JobDesk.Text.Quoted

/-!
# Quoted texts — told apart by their written forms

No two texts have the same quoted form: the written form of a character does not begin that of
another one, so a quoted text can be taken apart from its front.
-/

namespace JobDesk.Text

/-! ## 1. Hexadecimal digits -/

theorem mem_toDigits {n : Nat} {c : Char} (h : c ∈ Nat.toDigits 16 n) :
    ∃ digit : Fin 16, c = Nat.digitChar digit := by
  induction n using Nat.strongRecOn with
  | ind n ih =>
    by_cases hsmall : n < 16
    · rw [Nat.toDigits_of_lt_base hsmall, List.mem_singleton] at h
      exact ⟨⟨n, hsmall⟩, h⟩
    · rw [Nat.toDigits_of_base_le (by decide) (by omega), List.mem_append,
        List.mem_singleton] at h
      rcases h with hhigh | hlast
      · exact ih (n / 16) (by omega) hhigh
      · exact ⟨⟨n % 16, by omega⟩, hlast⟩

theorem digitChar_injective {a b : Nat} (ha : a < 16) (hb : b < 16)
    (h : Nat.digitChar a = Nat.digitChar b) : a = b := by
  have hsame : ∀ a b : Fin 16, Nat.digitChar a = Nat.digitChar b → a = b := by decide
  exact congrArg Fin.val (hsame ⟨a, ha⟩ ⟨b, hb⟩ h)

theorem toDigits_injective {a b : Nat} (h : Nat.toDigits 16 a = Nat.toDigits 16 b) : a = b := by
  have hmore : ∀ {m n : Nat}, m < 16 → ¬ n < 16 → Nat.toDigits 16 m ≠ Nat.toDigits 16 n := by
    intro m n hm hn hdigits
    rw [Nat.toDigits_of_lt_base hm, Nat.toDigits_of_base_le (by decide) (by omega)] at hdigits
    have hlength := congrArg List.length hdigits
    have hpos := List.length_pos_iff.mpr (@Nat.toDigits_ne_nil (n / 16) 16)
    rw [List.length_append, List.length_singleton, List.length_singleton] at hlength
    omega
  induction a using Nat.strongRecOn generalizing b with
  | ind a ih =>
    by_cases ha : a < 16
    · by_cases hb : b < 16
      · rw [Nat.toDigits_of_lt_base ha, Nat.toDigits_of_lt_base hb] at h
        exact digitChar_injective ha hb (List.cons.inj h).1
      · exact absurd h (hmore ha hb)
    · by_cases hb : b < 16
      · exact absurd h.symm (hmore hb ha)
      · rw [Nat.toDigits_of_base_le (by decide) (show 16 ≤ a by omega),
          Nat.toDigits_of_base_le (by decide) (show 16 ≤ b by omega)] at h
        obtain ⟨hhigh, hlast⟩ := List.append_inj' h rfl
        have hquot := ih (a / 16) (by omega) hhigh
        have hrem := digitChar_injective (by omega) (by omega) (List.cons.inj hlast).1
        omega

/-! ## 2. Characters -/

def named? (letter : Char) : Option Char :=
  if letter = '0' then some '\x00'
  else if letter = 't' then some '\t'
  else if letter = 'n' then some '\n'
  else if letter = 'r' then some '\r'
  else if letter = '"' then some '"'
  else if letter = '\\' then some '\\'
  else none

/-- The written forms: an escape of one letter, the code point, or the character itself. -/
theorem escape_cases (c : Char) :
    (∃ letter, (escape c).toList = ['\\', letter] ∧ letter ≠ 'u' ∧ named? letter = some c) ∨
    (escape c).toList = '\\' :: 'u' :: '\x7b' :: (Nat.toDigits 16 c.toNat ++ ['\x7d']) ∨
    ((escape c).toList = [c] ∧ c ≠ '"' ∧ c ≠ '\\') := by
  by_cases hnamed : c ∈ ['\x00', '\t', '\n', '\r', '"', '\\']
  · simp only [List.mem_cons, List.not_mem_nil, or_false] at hnamed
    rcases hnamed with rfl | rfl | rfl | rfl | rfl | rfl
    all_goals exact .inl ⟨_, rfl, by decide, rfl⟩
  · simp only [List.mem_cons, List.not_mem_nil, or_false, not_or] at hnamed
    obtain ⟨hzero, ht, hn, hr, hquote, hslash⟩ := hnamed
    rw [escape, if_neg hzero, if_neg ht, if_neg hn, if_neg hr, if_neg hquote, if_neg hslash]
    by_cases hhidden : isHidden c = true
    · rw [if_pos hhidden, String.toList_append, String.toList_append, String.toList_ofList]
      exact .inr (.inl (by simp))
    · rw [if_neg hhidden]
      exact .inr (.inr ⟨String.toList_singleton c, hquote, hslash⟩)

theorem append_brace_inj {m n : Nat} {s t : List Char}
    (h : Nat.toDigits 16 m ++ '\x7d' :: s = Nat.toDigits 16 n ++ '\x7d' :: t) :
    m = n ∧ s = t := by
  -- No digit is a brace, so the digits end where the first brace stands.
  have hdigit : ∀ {n : Nat}, ∀ c ∈ Nat.toDigits 16 n, (c != '\x7d') = true := by
    intro n c hc
    have hall : ∀ digit : Fin 16, (Nat.digitChar digit != '\x7d') = true := by decide
    obtain ⟨digit, rfl⟩ := mem_toDigits hc
    exact hall digit
  have htake := congrArg (List.takeWhile (· != '\x7d')) h
  have hdrop := congrArg (List.dropWhile (· != '\x7d')) h
  rw [List.takeWhile_append_of_pos hdigit, List.takeWhile_append_of_pos hdigit,
    List.takeWhile_cons_of_neg (by decide), List.takeWhile_cons_of_neg (by decide),
    List.append_nil, List.append_nil] at htake
  rw [List.dropWhile_append_of_pos hdigit, List.dropWhile_append_of_pos hdigit,
    List.dropWhile_cons_of_neg (by decide), List.dropWhile_cons_of_neg (by decide)] at hdrop
  exact ⟨toDigits_injective htake, (List.cons.inj hdrop).2⟩

/-- A text that begins with the written form of a character begins with that of no other. -/
theorem escape_append_inj {c d : Char} {s t : List Char}
    (h : (escape c).toList ++ s = (escape d).toList ++ t) : c = d ∧ s = t := by
  rcases escape_cases c with ⟨a, hc, ha, hac⟩ | hc | ⟨hc, -, hslash⟩ <;>
    rcases escape_cases d with ⟨b, hd, hb, hbd⟩ | hd | ⟨hd, -, hother⟩ <;>
    simp only [hc, hd, List.cons_append, List.nil_append, List.append_assoc, List.cons.injEq,
      true_and] at h
  · obtain ⟨rfl, rfl⟩ := h
    exact ⟨Option.some.inj (hac.symm.trans hbd), rfl⟩
  · exact absurd h.1 ha
  · exact absurd h.1.symm hother
  · exact absurd h.1.symm hb
  · obtain ⟨hpoint, rfl⟩ := append_brace_inj h
    exact ⟨Char.toNat_inj.mp hpoint, rfl⟩
  · exact absurd h.1.symm hother
  · exact absurd h.1 hslash
  · exact absurd h.1 hslash
  · exact h

theorem escape_append_ne (c : Char) (rest : List Char) : (escape c).toList ++ rest ≠ ['"'] := by
  intro h
  rcases escape_cases c with ⟨letter, hc, -, -⟩ | hc | ⟨hc, hquote, -⟩ <;> rw [hc] at h
  · exact absurd (List.cons.inj h).1 (by decide)
  · exact absurd (List.cons.inj h).1 (by decide)
  · exact hquote (List.cons.inj h).1

/-! ## 3. Texts -/

theorem toList_quoted (s : String) :
    (quoted s).toList = '"' :: (s.toList.flatMap (fun c => (escape c).toList) ++ ['"']) := by
  have hfold : ∀ (cs : List Char) (made : String),
      (cs.foldl (fun made c => made ++ escape c) made).toList =
        made.toList ++ cs.flatMap fun c => (escape c).toList := by
    intro cs
    induction cs with
    | nil => exact fun made => (List.append_nil _).symm
    | cons c cs ih =>
      intro made
      rw [List.foldl_cons, ih, String.toList_append, List.flatMap_cons, List.append_assoc]
  rw [quoted, String.toList_append, String.foldl_eq_foldl_toList, hfold]
  rfl

theorem flatMap_escape_inj {cs ds : List Char}
    (h : cs.flatMap (fun c => (escape c).toList) ++ ['"'] =
      ds.flatMap (fun c => (escape c).toList) ++ ['"']) : cs = ds := by
  induction cs generalizing ds with
  | nil =>
    cases ds with
    | nil => rfl
    | cons d ds =>
      rw [List.flatMap_cons, List.append_assoc] at h
      exact absurd h.symm (escape_append_ne d _)
  | cons c cs ih =>
    cases ds with
    | nil =>
      rw [List.flatMap_cons, List.append_assoc] at h
      exact absurd h (escape_append_ne c _)
    | cons d ds =>
      rw [List.flatMap_cons, List.flatMap_cons, List.append_assoc, List.append_assoc] at h
      obtain ⟨rfl, hrest⟩ := escape_append_inj h
      rw [ih hrest]

theorem quoted_injective {a b : String} (h : quoted a = quoted b) : a = b := by
  have hchars := congrArg String.toList h
  rw [toList_quoted, toList_quoted] at hchars
  exact String.toList_inj.mp (flatMap_escape_inj (List.cons.inj hchars).2)

end JobDesk.Text
