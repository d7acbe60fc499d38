import JobDesk.Json.Read
import JobDesk.Proofs.Json.Members
import JobDesk.Proofs.Outcome
import Mathlib.Algebra.GroupWithZero.Nat
import Mathlib.Data.List.TakeDrop

/-!
# Reading — values that come from text

`Json.weight` counts the characters that a value takes at least when it is written.  A value that is
read from a text is ordered, and no heavier than the text is long: `Json.read?_spec`.
-/

namespace JobDesk.Json

/-! ## 1. Weight -/

mutual

def weight : Json → Nat
  | .string s => s.length + 2
  | .array items => weightItems items + 1
  | .object members => weightMembers members + 1
  | _ => 1

def weightItems : List Json → Nat
  | [] => 0
  | item :: rest => item.weight + 1 + weightItems rest

def weightMembers : List (String × Json) → Nat
  | [] => 0
  | (key, value) :: rest => key.length + 3 + value.weight + 1 + weightMembers rest

end

def memberWeight (member : String × Json) : Nat :=
  member.1.length + 3 + member.2.weight

theorem weightItems_eq_sum (items : List Json) :
    weightItems items = (items.map fun item => item.weight + 1).sum := by
  induction items with
  | nil => rfl
  | cons item rest ih => rw [weightItems, ih, List.map_cons, List.sum_cons]

theorem weightMembers_eq_sum (members : List (String × Json)) :
    weightMembers members = (members.map fun member => memberWeight member + 1).sum := by
  induction members with
  | nil => rfl
  | cons member rest ih => rw [weightMembers, ih, List.map_cons, List.sum_cons, memberWeight]

theorem weightMembers_keepLast_le (members : List (String × Json)) :
    weightMembers (keepLast members) ≤ weightMembers members := by
  fun_induction keepLast members with
  | case1 first second rest heq ih =>
    have hskip : weightMembers (second :: rest) ≤ weightMembers (first :: second :: rest) :=
      Nat.le_add_left _ _
    exact Nat.le_trans ih hskip
  | case2 first second rest hne ih => exact Nat.add_le_add_left ih _
  | case3 members hshort => exact Nat.le_refl _

theorem weightMembers_sortMembers_le (members : List (String × Json)) :
    weightMembers (sortMembers members) ≤ weightMembers members := by
  have hperm := List.mergeSort_perm members fun a b => !decide (b.1 < a.1)
  have hsum := (hperm.map fun member => memberWeight member + 1).sum_nat
  rw [← weightMembers_eq_sum, ← weightMembers_eq_sum] at hsum
  rw [← hsum]
  exact weightMembers_keepLast_le _

/-! ## 2. Order -/

theorem orderedItems_iff (items : List Json) :
    OrderedItems items ↔ ∀ item ∈ items, item.Ordered := by
  induction items with
  | nil => simp [OrderedItems]
  | cons item rest ih => simp [OrderedItems, ih]

theorem orderedMembers_iff (members : List (String × Json)) :
    OrderedMembers members ↔ ∀ member ∈ members, member.2.Ordered := by
  induction members with
  | nil => simp [OrderedMembers]
  | cons member rest ih =>
    obtain ⟨key, value⟩ := member
    simp [OrderedMembers, ih]

theorem ordered_ofMembers {members : List (String × Json)}
    (h : ∀ member ∈ members, member.2.Ordered) : (ofMembers members).Ordered := by
  rw [ofMembers, Ordered]
  refine ⟨List.pairwise_map.mpr (pairwise_sortMembers members), ?_⟩
  rw [orderedMembers_iff]
  exact fun member hmember => h member (mem_of_mem_sortMembers hmember)

theorem ordered_ofDouble (x : Binary64) : (ofDouble x).Ordered := by
  unfold ofDouble
  split <;> trivial

theorem weight_ofDouble (x : Binary64) : (ofDouble x).weight = 1 := by
  unfold ofDouble
  split <;> rfl

/-! ## 3. Tokens -/

theorem length_skipBlanks_le (text : List Char) : (skipBlanks text).length ≤ text.length :=
  (List.dropWhile_sublist _).length_le

theorem scanWord_length {word text rest : List Char} (h : scanWord word text = .ok ((), rest)) :
    rest.length + word.length = text.length := by
  induction word generalizing text with
  | nil =>
    obtain rfl : text = rest := by simpa [scanWord] using h
    rfl
  | cons c word ih =>
    cases text with
    | nil => cases h
    | cons d text =>
      rw [scanWord] at h
      split at h
      · have := ih h
        simp only [List.length_cons]
        omega
      · cases h

theorem scanStringFrom_length {before s : String} {text rest : List Char}
    (h : scanStringFrom before text = .ok (s, rest)) :
    s.length + rest.length + 1 ≤ before.length + text.length := by
  fun_induction scanStringFrom before text with
  | case1 | case3 | case4 | case5 | case7 | case8 | case11 | case12 => cases h
  | case2 before text =>
    obtain ⟨rfl, rfl⟩ := Prod.mk.inj (Except.ok.inj h)
    simp only [List.length_cons]
    omega
  -- One character is kept of one, two, six or twelve.
  | case6 | case9 | case10 | case13 =>
    rename_i ih
    have := ih h
    simp only [String.length_push, List.length_cons] at this ⊢
    omega

theorem scanDigits_length {digits text rest : List Char}
    (h : scanDigits text = .ok (digits, rest)) : rest.length < text.length := by
  -- The digits and what is left make up the text, and there is one digit at least.
  have hboth := congrArg List.length
    (List.takeWhile_append_dropWhile (p := Text.isDigit) (l := text))
  rw [List.length_append] at hboth
  rw [scanDigits, List.span_eq_takeWhile_dropWhile] at h
  split at h
  · cases h
  · rename_i hne heq
    obtain ⟨rfl, rfl⟩ := Prod.mk.inj (Except.ok.inj h)
    obtain ⟨rfl, rfl⟩ := Prod.mk.inj heq
    have hpos := List.length_pos_iff.mpr fun hnil => hne hnil
    omega

theorem scanWhole_length {digits text rest : List Char}
    (h : scanWhole text = .ok (digits, rest)) : rest.length < text.length := by
  unfold scanWhole at h
  split at h
  · split at h
    · cases h
    · obtain ⟨-, rfl⟩ := Prod.mk.inj (Except.ok.inj h)
      exact Nat.lt_succ_self _
  · exact scanDigits_length h

theorem scanFraction_length {fraction : Option (List Char)} {text rest : List Char}
    (h : scanFraction text = .ok (fraction, rest)) : rest.length ≤ text.length := by
  unfold scanFraction at h
  split at h
  · obtain ⟨⟨digits, after⟩, hdigits, heq⟩ := ok_of_map h
    obtain ⟨-, rfl⟩ := Prod.mk.inj heq
    have := scanDigits_length hdigits
    simp only [List.length_cons]
    omega
  · obtain ⟨-, rfl⟩ := Prod.mk.inj (Except.ok.inj h)
    exact Nat.le_refl _

theorem scanExponent_length {exponent : Option (Bool × List Char)} {text rest : List Char}
    (h : scanExponent text = .ok (exponent, rest)) : rest.length ≤ text.length := by
  unfold scanExponent at h
  split at h
  · split at h
    · split at h
      all_goals
        obtain ⟨⟨digits, after⟩, hdigits, heq⟩ := ok_of_map h
        obtain ⟨-, rfl⟩ := Prod.mk.inj heq
        have := scanDigits_length hdigits
        simp only [List.length_cons]
        omega
    · obtain ⟨-, rfl⟩ := Prod.mk.inj (Except.ok.inj h)
      exact Nat.le_refl _
  · obtain ⟨-, rfl⟩ := Prod.mk.inj (Except.ok.inj h)
    exact Nat.le_refl _

theorem scanNumberForm_length {form : NumberForm} {text rest : List Char}
    (h : scanNumberForm text = .ok (form, rest)) : rest.length < text.length := by
  obtain ⟨⟨whole, afterWhole⟩, hwhole, h⟩ := ok_of_bind h
  obtain ⟨⟨fraction, afterFraction⟩, hfraction, h⟩ := ok_of_bind h
  obtain ⟨⟨exponent, after⟩, hexponent, h⟩ := ok_of_bind h
  obtain ⟨-, rfl⟩ := Prod.mk.inj (Except.ok.inj h)
  have hwhole := scanWhole_length hwhole
  have hfraction := scanFraction_length hfraction
  have hexponent := scanExponent_length hexponent
  -- A sign only makes the text longer.
  have hsign : (if text.head? == some '-' then text.drop 1 else text).length ≤ text.length := by
    split <;> simp
  omega

/-! ## 4. Values -/

/-- A scanner gives only values that have a property, and none that weighs more than its text. -/
def Reads {α : Type} (scanner : Scanner α) (P : α → Prop) (size : α → Nat) : Prop :=
  ∀ (text rest : List Char) (value : α), scanner text = .ok (value, rest) →
    P value ∧ size value + rest.length ≤ text.length

theorem scanNumber_reads : Reads scanNumber Ordered weight := by
  intro text rest value h
  obtain ⟨⟨form, after⟩, hform, h⟩ := ok_of_bind h
  have hlength := scanNumberForm_length hform
  simp only at h
  split at h
  · rename_i number hnumber
    obtain ⟨rfl, rfl⟩ := Prod.mk.inj (Except.ok.inj h)
    have hvalue : number.Ordered ∧ number.weight = 1 := by
      unfold NumberForm.value? at hnumber
      split at hnumber
      · obtain rfl := Option.some.inj hnumber
        exact ⟨trivial, rfl⟩
      · obtain ⟨x, -, rfl⟩ := Option.map_eq_some_iff.mp hnumber
        exact ⟨ordered_ofDouble _, weight_ofDouble _⟩
    refine ⟨hvalue.1, ?_⟩
    rw [hvalue.2]
    omega
  · cases h

section

variable {α : Type} {scanner : Scanner α} {P : α → Prop} {size : α → Nat}

def listSize (size : α → Nat) (values : List α) : Nat :=
  (values.map fun value => size value + 1).sum

theorem scanItemsFrom_reads (h : Reads scanner P size) {close : Char}
    {rounds text rest : List Char} {before values : List α} (hbefore : ∀ value ∈ before, P value)
    (hscan : scanItemsFrom scanner close rounds before text = .ok (values, rest)) :
    (∀ value ∈ values, P value) ∧
      listSize size values + rest.length ≤ listSize size before + text.length := by
  -- By induction on the rounds; what was read before counts with a separator for each item.
  induction rounds generalizing before text with
  | nil => cases hscan
  | cons _ rounds ih =>
    obtain ⟨⟨value, after⟩, hvalue, hscan⟩ := ok_of_bind hscan
    obtain ⟨hproperty, hsize⟩ := h _ _ _ hvalue
    have hblanks := length_skipBlanks_le text
    have hafter := length_skipBlanks_le after
    have hnext : ∀ value' ∈ value :: before, P value' := by
      intro value' hmem
      rcases List.mem_cons.mp hmem with rfl | hmem
      · exact hproperty
      · exact hbefore value' hmem
    have hlist : listSize size (value :: before) = size value + 1 + listSize size before := by
      rw [listSize, List.map_cons, List.sum_cons, listSize]
    simp only at hscan
    split at hscan
    · rename_i c text' heq
      rw [heq, List.length_cons] at hafter
      split at hscan
      · obtain ⟨hvalues, hbound⟩ := ih hnext hscan
        exact ⟨hvalues, by omega⟩
      · split at hscan
        · obtain ⟨rfl, rfl⟩ := Prod.mk.inj (Except.ok.inj hscan)
          refine ⟨fun value' hmem => hnext value' (List.mem_reverse.mp hmem), ?_⟩
          have hreverse : listSize size (value :: before).reverse =
              listSize size (value :: before) := by
            rw [listSize, List.map_reverse, List.sum_reverse, listSize]
          omega
        · cases hscan
    · cases hscan

theorem scanItems_reads (h : Reads scanner P size) (close : Char) :
    Reads (scanItems scanner close) (fun values => ∀ value ∈ values, P value)
      (listSize size) := by
  intro text rest values hscan
  have hblanks := length_skipBlanks_le text
  unfold scanItems at hscan
  split at hscan
  · rename_i c text' heq
    rw [heq, List.length_cons] at hblanks
    split at hscan
    · obtain ⟨rfl, rfl⟩ := Prod.mk.inj (Except.ok.inj hscan)
      refine ⟨by simp, ?_⟩
      change 0 + _ ≤ _
      omega
    · obtain ⟨hvalues, hbound⟩ := scanItemsFrom_reads h (by simp) hscan
      refine ⟨hvalues, ?_⟩
      change _ ≤ 0 + (text'.length + 1) at hbound
      omega
  · cases hscan

theorem scanMember_reads (h : Reads scanner P size) :
    Reads (scanMember scanner) (fun member => P member.2)
      (fun member => member.1.length + 3 + size member.2) := by
  intro text rest member hscan
  obtain ⟨⟨key, afterKey⟩, hkey, hscan⟩ := ok_of_bind hscan
  have hlength : key.length + 2 + afterKey.length ≤ text.length := by
    unfold scanString at hkey
    split at hkey
    · have hstring := scanStringFrom_length hkey
      change _ ≤ 0 + _ at hstring
      simp only [List.length_cons]
      omega
    · cases hkey
  have hblanks := length_skipBlanks_le afterKey
  simp only at hscan
  split at hscan
  · rename_i afterColon heq
    rw [heq, List.length_cons] at hblanks
    obtain ⟨⟨value, after⟩, hvalue, hscan⟩ := ok_of_bind hscan
    obtain ⟨rfl, rfl⟩ := Prod.mk.inj (Except.ok.inj hscan)
    obtain ⟨hproperty, hsize⟩ := h _ _ _ hvalue
    have hmore := length_skipBlanks_le afterColon
    exact ⟨hproperty, by simp only; omega⟩
  · cases hscan

end

theorem scanWord_reads {word : List Char} {value : Json} (hordered : value.Ordered)
    (hweight : value.weight = 1) (first : Char) (text rest : List Char) (read : Json)
    (h : (scanWord word text).map (fun (_, rest) => (value, rest)) = .ok (read, rest)) :
    read.Ordered ∧ read.weight + rest.length ≤ (first :: text).length := by
  obtain ⟨⟨_, after⟩, hword, heq⟩ := ok_of_map h
  obtain ⟨rfl, rfl⟩ := Prod.mk.inj heq
  have hlength := scanWord_length hword
  refine ⟨hordered, ?_⟩
  rw [hweight, List.length_cons]
  omega

/-- What is scanned as a value is ordered and no heavier than its text. -/
theorem scanValue_reads (depth : Nat) : Reads (scanValue depth) Ordered weight := by
  -- By induction on the nesting that is left, with one case for each first character.
  induction depth with
  | zero => intro text rest value h; cases h
  | succ depth ih =>
    intro text rest value h
    unfold scanValue at h
    split at h
    · exact @scanWord_reads _ .null trivial rfl _ _ _ _ h
    · exact @scanWord_reads _ (.bool true) trivial rfl _ _ _ _ h
    · exact @scanWord_reads _ (.bool false) trivial rfl _ _ _ _ h
    · obtain ⟨⟨s, after⟩, hstring, heq⟩ := ok_of_map h
      obtain ⟨rfl, rfl⟩ := Prod.mk.inj heq
      have hlength := scanStringFrom_length hstring
      change _ ≤ 0 + _ at hlength
      refine ⟨trivial, ?_⟩
      rw [weight, List.length_cons]
      omega
    · split at h
      · cases h
      · obtain ⟨⟨items, after⟩, hitems, heq⟩ := ok_of_map h
        obtain ⟨rfl, rfl⟩ := Prod.mk.inj heq
        obtain ⟨hordered, hsize⟩ := scanItems_reads ih ']' _ _ _ hitems
        refine ⟨(orderedItems_iff items).mpr hordered, ?_⟩
        have hsum : listSize weight items + after.length ≤ _ := hsize
        rw [listSize, ← weightItems_eq_sum] at hsum
        rw [weight, List.length_cons]
        omega
    · split at h
      · cases h
      · obtain ⟨⟨members, after⟩, hmembers, heq⟩ := ok_of_map h
        obtain ⟨rfl, rfl⟩ := Prod.mk.inj heq
        obtain ⟨hordered, hsize⟩ := scanItems_reads (scanMember_reads ih) '}' _ _ _ hmembers
        refine ⟨ordered_ofMembers hordered, ?_⟩
        have hsorted := weightMembers_sortMembers_le members
        have hsum : listSize memberWeight members + after.length ≤ _ := hsize
        rw [listSize, ← weightMembers_eq_sum] at hsum
        rw [ofMembers, weight, List.length_cons]
        omega
    · exact scanNumber_reads _ _ _ h

/-- What is read from a text is ordered and no heavier than the text is long. -/
theorem read?_spec {text : String} {value : Json} (h : read? text = some value) :
    value.Ordered ∧ value.weight ≤ text.length := by
  have hread : read text = .ok value := by
    unfold read? at h
    cases hread : read text with
    | ok value' => rw [hread] at h; exact congrArg Except.ok (Option.some.inj h)
    | error fault => rw [hread] at h; cases h
  obtain ⟨⟨value', rest⟩, hvalue, hread⟩ := ok_of_bind hread
  obtain ⟨_, -, hread⟩ := ok_of_bind hread
  obtain rfl := Except.ok.inj hread
  obtain ⟨hordered, hweight⟩ := scanValue_reads depthLimit _ _ _ hvalue
  have hblanks := length_skipBlanks_le text.toList
  rw [String.length_toList] at hblanks
  exact ⟨hordered, by omega⟩

end JobDesk.Json
