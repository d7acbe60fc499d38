import JobDesk.Json.Basic

/-!
# Members — objects in key order

Sorting members brings them into strictly increasing key order, changes nothing where they have that
order already, and does not see in which order members were sorted before.
-/

namespace JobDesk.Json

variable {α : Type} {members : List (String × α)}

theorem key_le_trans (a b c : String × α) (hab : (!decide (b.1 < a.1)) = true)
    (hbc : (!decide (c.1 < b.1)) = true) : (!decide (c.1 < a.1)) = true := by
  simp only [Bool.not_eq_true', decide_eq_false_iff_not, String.not_lt] at *
  exact String.le_trans hab hbc

theorem key_le_total (a b : String × α) :
    ((!decide (b.1 < a.1)) || (!decide (a.1 < b.1))) = true := by
  simp only [Bool.or_eq_true, Bool.not_eq_true', decide_eq_false_iff_not, String.not_lt]
  exact String.le_total a.1 b.1

theorem pairwise_sorted (members : List (String × α)) :
    (members.mergeSort fun a b => !decide (b.1 < a.1)).Pairwise fun a b => a.1 ≤ b.1 := by
  have h := List.pairwise_mergeSort key_le_trans key_le_total members
  refine h.imp fun {a b} hab => ?_
  simpa only [Bool.not_eq_true', decide_eq_false_iff_not, String.not_lt] using hab

/-- Members that were sorted by key before are sorted as if they had not been. -/
theorem sortMembers_mergeSort (members : List (String × α)) :
    sortMembers (members.mergeSort fun a b => !decide (b.1 < a.1)) = sortMembers members := by
  rw [sortMembers,
    List.mergeSort_of_pairwise (List.pairwise_mergeSort key_le_trans key_le_total members)]
  rfl

theorem mem_of_mem_keepLast {member : String × α} (h : member ∈ keepLast members) :
    member ∈ members := by
  fun_induction keepLast members with
  | case1 first second rest heq ih => exact List.mem_cons_of_mem _ (ih h)
  | case2 first second rest hne ih =>
    rcases List.mem_cons.mp h with rfl | h
    · exact List.mem_cons_self
    · exact List.mem_cons_of_mem _ (ih h)
  | case3 members hshort => exact h

/-- Of sorted members only the last with each key is kept, so the keys increase strictly. -/
theorem pairwise_keepLast (h : members.Pairwise fun a b => a.1 ≤ b.1) :
    (keepLast members).Pairwise fun a b => a.1 < b.1 := by
  fun_induction keepLast members with
  | case1 first second rest heq ih => exact ih (List.pairwise_cons.mp h).2
  | case2 first second rest hne ih =>
    obtain ⟨hfirst, hrest⟩ := List.pairwise_cons.mp h
    refine List.pairwise_cons.mpr ⟨fun member hmember => ?_, ih hrest⟩
    have hsecond : first.1 < second.1 := by
      refine String.not_le.mp fun hle => hne ?_
      exact String.le_antisymm (hfirst second List.mem_cons_self) hle
    rcases List.mem_cons.mp (mem_of_mem_keepLast hmember) with rfl | hmember
    · exact hsecond
    · refine String.not_le.mp fun hle => String.lt_irrefl second.1 ?_
      have hback := (List.pairwise_cons.mp hrest).1 member hmember
      exact absurd (String.le_trans hback hle) (String.not_le.mpr hsecond)
  | case3 members hshort =>
    match members, hshort with
    | [], _ => exact List.Pairwise.nil
    | [member], _ => exact List.pairwise_singleton _ _
    | first :: second :: rest, hshort => exact absurd rfl (hshort first second rest)

theorem pairwise_sortMembers (members : List (String × α)) :
    (sortMembers members).Pairwise fun a b => a.1 < b.1 :=
  pairwise_keepLast (pairwise_sorted members)

theorem keepLast_eq_self (h : members.Pairwise fun a b => a.1 < b.1) :
    keepLast members = members := by
  fun_induction keepLast members with
  | case1 first second rest heq ih =>
    have hlt := (List.pairwise_cons.mp h).1 second List.mem_cons_self
    rw [heq] at hlt
    exact absurd hlt (String.lt_irrefl _)
  | case2 first second rest hne ih => rw [ih (List.pairwise_cons.mp h).2]
  | case3 members hshort => rfl

theorem sortMembers_eq_self (h : members.Pairwise fun a b => a.1 < b.1) :
    sortMembers members = members := by
  have hsorted : members.mergeSort (fun a b => !decide (b.1 < a.1)) = members := by
    refine List.mergeSort_of_pairwise (h.imp fun {a b} hab => ?_)
    simpa only [Bool.not_eq_true', decide_eq_false_iff_not] using String.lt_asymm hab
  rw [sortMembers, hsorted, keepLast_eq_self h]

theorem mem_of_mem_sortMembers {member : String × α} (h : member ∈ sortMembers members) :
    member ∈ members :=
  List.mem_mergeSort.mp (mem_of_mem_keepLast h)

end JobDesk.Json
