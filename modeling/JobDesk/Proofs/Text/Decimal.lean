import JobDesk.Text.Decimal

/-!
# Decimal integers — written and read back

The decimal text of an integer consists of digits behind at most one minus sign, and is read as the
integer that it was written for.
-/

namespace JobDesk.Text

/-! ## 1. Digits -/

theorem isDigit_eq (c : Char) : isDigit c = c.isDigit := rfl

theorem digitsValue_eq (digits : List Char) : digitsValue digits = Nat.ofDigitChars 10 digits 0 :=
  rfl

theorem all_isDigit_toDigits (n : Nat) : (Nat.toDigits 10 n).all isDigit = true := by
  rw [List.all_eq_true]
  intro c hc
  rw [isDigit_eq]
  exact Nat.isDigit_of_mem_toDigits (by decide) (by decide) hc

theorem readDigits?_toDigits (n : Nat) : readDigits? (Nat.toDigits 10 n) = some n := by
  have hvalue : digitsValue (Nat.toDigits 10 n) = n := by
    rw [digitsValue_eq, Nat.ofDigitChars_ten_toDigits]
  have hsome : (Nat.toDigits 10 n).isEmpty = false :=
    List.isEmpty_eq_false_iff.mpr Nat.toDigits_ne_nil
  rw [readDigits?, hsome, all_isDigit_toDigits, hvalue]
  rfl

theorem eq_zero_of_head?_toDigits {n : Nat} (h : (Nat.toDigits 10 n).head? = some '0') : n = 0 := by
  induction n using Nat.strongRecOn with
  | ind n ih =>
    by_cases hsmall : n < 10
    · rw [Nat.toDigits_of_lt_base hsmall] at h
      have hdigit : ∀ m : Fin 10, Nat.digitChar m = '0' → m = 0 := by decide
      exact congrArg Fin.val (hdigit ⟨n, hsmall⟩ (Option.some.inj h))
    · rw [Nat.toDigits_of_base_le (by decide) (by omega), List.head?_append] at h
      cases hhead : (Nat.toDigits 10 (n / 10)).head? with
      | none => exact absurd (List.head?_eq_none_iff.mp hhead) Nat.toDigits_ne_nil
      | some c =>
        rw [hhead] at h
        have hzero := ih (n / 10) (by omega) (hhead.trans h)
        omega

/-! ## 2. Integers -/

theorem toList_toString_ofNat (n : Nat) : (toString (n : Int)).toList = Nat.toDigits 10 n :=
  Nat.toList_repr

theorem toList_toString_neg (n : Nat) :
    (toString (-(n + 1 : Nat) : Int)).toList = '-' :: Nat.toDigits 10 (n + 1) := by
  show ("-" ++ (n + 1).repr).toList = _
  rw [String.toList_append, Nat.toList_repr]
  rfl

theorem mem_toString {n : Int} {c : Char} (h : c ∈ (toString n).toList) :
    c = '-' ∨ isDigit c = true := by
  have hdigit : ∀ m : Nat, c ∈ Nat.toDigits 10 m → isDigit c = true := fun m hmem =>
    List.all_eq_true.mp (all_isDigit_toDigits m) c hmem
  rcases n with m | m
  · exact .inr (hdigit m ((toList_toString_ofNat m) ▸ h))
  · rw [Int.negSucc_eq, ← Int.natCast_succ, toList_toString_neg] at h
    rcases List.mem_cons.mp h with hsign | hmem
    · exact .inl hsign
    · exact .inr (hdigit _ hmem)

theorem toString_ne_empty (n : Int) : toString n ≠ "" := by
  intro h
  have hnil := congrArg String.toList h
  rcases n with m | m
  · exact Nat.toDigits_ne_nil ((toList_toString_ofNat m).symm.trans hnil)
  · rw [Int.negSucc_eq, ← Int.natCast_succ, toList_toString_neg] at hnil
    exact List.cons_ne_nil _ _ hnil

theorem readUnsigned?_toDigits (n : Nat) : readUnsigned? (Nat.toDigits 10 n) = some n := by
  unfold readUnsigned?
  split
  · rename_i cs hcs
    have hplus := List.all_eq_true.mp (all_isDigit_toDigits n) '+' (by rw [hcs]; simp)
    exact absurd hplus (by decide)
  · exact readDigits?_toDigits n

theorem readSigned?_toString (n : Int) : readSigned? (toString n).toList = some n := by
  rcases n with m | m
  · show readSigned? (toString (m : Int)).toList = _
    rw [toList_toString_ofNat]
    unfold readSigned?
    split
    · rename_i cs hcs
      have hminus := List.all_eq_true.mp (all_isDigit_toDigits m) '-' (by rw [hcs]; simp)
      exact absurd hminus (by decide)
    · rw [readUnsigned?_toDigits]
      rfl
  · rw [Int.negSucc_eq, ← Int.natCast_succ, toList_toString_neg]
    simp only [readSigned?, readDigits?_toDigits]
    rfl

theorem eq_of_toString {n m : Int} (h : (toString n).toList = (toString m).toList) : n = m := by
  have hread := readSigned?_toString n
  rw [h, readSigned?_toString] at hread
  exact (Option.some.inj hread).symm

theorem readInt64?_toString (id : Int64) : readInt64? (toString id.toInt).toList = some id := by
  have hlow := Int64.le_toInt id
  have hhigh := Int64.toInt_lt id
  simp only [readInt64?, readSigned?_toString]
  rw [Option.filter_some, if_pos, Option.map_some, Int64.ofInt_toInt]
  simp only [Bool.and_eq_true, decide_eq_true_eq]
  omega

end JobDesk.Text
