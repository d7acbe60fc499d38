import JobDesk.Job.WaitingSet

/-!
# WaitingSet — looking codes up

`WaitingSet.contains_iff` says that halving finds a code just when it is one of the set's codes, and
`WaitingSet.eq_iff_mem_iff` that a set is known by its codes.
-/

namespace JobDesk.WaitingSet

/-! ## 1. Halving -/

theorem lt_of_pairwise {codes : Array Int16} (h : codes.toList.Pairwise (· < ·)) {i j : Nat}
    (hij : i < j) (hj : j < codes.size) : codes[i] < codes[j] := by
  have := List.pairwise_iff_getElem.mp h i j (by simp; omega) (by simpa using hj) hij
  simpa only [Array.getElem_toList] using this

/-- Halving finds a code just when it stands in the part that is searched. -/
theorem search_iff {codes : Array Int16} (h : codes.toList.Pairwise (· < ·)) {code : Int16}
    {low high : Nat} (hhigh : high ≤ codes.size) :
    search codes code low high = true ↔
      ∃ i, low ≤ i ∧ i < high ∧ codes[i]? = some code := by
  -- The induction is on the narrowing of the bounds; a code on the wrong side of the middle would
  -- be out of order.
  fun_induction search codes code low high with
  | case1 low high hbounds middle hmiddle hless ih =>
    rw [ih hhigh]
    constructor
    · rintro ⟨i, hlow, hi, hcode⟩
      exact ⟨i, by omega, hi, hcode⟩
    · rintro ⟨i, hlow, hi, hcode⟩
      refine ⟨i, Nat.not_le.mp fun hbefore => ?_, hi, hcode⟩
      obtain ⟨hbound, rfl⟩ := Array.getElem?_eq_some_iff.mp hcode
      rcases Nat.lt_or_eq_of_le hbefore with hlt | heq
      · exact Int16.lt_asymm hless (lt_of_pairwise h hlt hmiddle)
      · subst heq
        exact Int16.lt_irrefl hless
  | case2 low high hbounds middle hmiddle hless hgreater ih =>
    rw [ih (by omega)]
    constructor
    · rintro ⟨i, hlow, hi, hcode⟩
      exact ⟨i, hlow, by omega, hcode⟩
    · rintro ⟨i, hlow, hi, hcode⟩
      refine ⟨i, hlow, Nat.not_le.mp fun hbehind => ?_, hcode⟩
      obtain ⟨hbound, rfl⟩ := Array.getElem?_eq_some_iff.mp hcode
      rcases Nat.lt_or_eq_of_le hbehind with hlt | heq
      · exact Int16.lt_asymm hgreater (lt_of_pairwise h hlt hbound)
      · subst heq
        exact Int16.lt_irrefl hgreater
  | case3 low high hbounds middle hmiddle hless hgreater =>
    have hcode : codes[middle] = code :=
      Int16.le_antisymm (Int16.not_lt.mp hgreater) (Int16.not_lt.mp hless)
    refine iff_of_true rfl ⟨middle, by omega, by omega, ?_⟩
    rw [Array.getElem?_eq_getElem hmiddle, hcode]
  | case4 low high hbounds =>
    refine iff_of_false (by simp) ?_
    rintro ⟨i, hlow, hi, -⟩
    exact hbounds ⟨by omega, hhigh⟩

theorem contains_iff (set : WaitingSet) (code : Int16) :
    set.contains code = true ↔ code ∈ set.codes.toList := by
  rw [contains, search_iff set.increasing (Nat.le_refl _), Array.mem_toList_iff,
    Array.mem_iff_getElem?]
  constructor
  · rintro ⟨i, -, -, hcode⟩
    exact ⟨i, hcode⟩
  · rintro ⟨i, hcode⟩
    exact ⟨i, Nat.zero_le i, (Array.getElem?_eq_some_iff.mp hcode).1, hcode⟩

/-! ## 2. Codes in any order -/

variable {codes others : List Int16} {code : Int16}

theorem mem_ofCodes : code ∈ (ofCodes codes).codes.toList ↔ code ∈ codes := mem_sorted

theorem contains_ofCodes : (ofCodes codes).contains code = true ↔ code ∈ codes := by
  rw [contains_iff, mem_ofCodes]

theorem nodup_codes (set : WaitingSet) : set.codes.toList.Nodup :=
  set.increasing.imp Int16.ne_of_lt

/-- Sets of the same codes are the same, as there is one increasing order. -/
theorem eq_iff_mem_iff {set other : WaitingSet} :
    set = other ↔ ∀ code, code ∈ set.codes.toList ↔ code ∈ other.codes.toList := by
  refine ⟨fun h code => h ▸ Iff.rfl, fun h => ?_⟩
  have hperm : set.codes.toList.Perm other.codes.toList :=
    (List.perm_ext_iff_of_nodup set.nodup_codes other.nodup_codes).mpr h
  have hcodes : set.codes.toList = other.codes.toList :=
    hperm.eq_of_pairwise (fun _ _ _ _ hbelow habove => absurd habove (Int16.lt_asymm hbelow))
      set.increasing other.increasing
  obtain ⟨codes, increasing⟩ := set
  obtain rfl := Array.toList_inj.mp hcodes
  rfl

instance : LawfulBEq WaitingSet where
  rfl := beq_self_eq_true (α := Array Int16) _
  eq_of_beq h := eq_iff_mem_iff.mpr fun code => by rw [eq_of_beq (α := Array Int16) h]

theorem ofCodes_eq_iff : ofCodes codes = ofCodes others ↔ ∀ code, code ∈ codes ↔ code ∈ others := by
  simp only [eq_iff_mem_iff, mem_ofCodes]

end JobDesk.WaitingSet
