import JobDesk.Proofs.Json.Reading

/-!
# Places — where the keys of a value stand

A key of a value is found by a path: the index of a member or an item at each depth, down to the
member that has the key.  The paths are in the order of the written value: a key comes before the
keys inside its own value, and of two members or items all keys of the earlier come first.
-/

namespace JobDesk.Json

inductive KeyAt : Json → List Nat → String → Prop
  | here {members : List (String × Json)} {i : Nat} {key : String} {value : Json}
      (hmember : members[i]? = some (key, value)) : KeyAt (.object members) [i] key
  | inMember {members : List (String × Json)} {i : Nat} {name : String} {value : Json}
      {path : List Nat} {key : String} (hmember : members[i]? = some (name, value))
      (hkey : KeyAt value path key) : KeyAt (.object members) (i :: path) key
  | inItem {items : List Json} {i : Nat} {item : Json} {path : List Nat} {key : String}
      (hitem : items[i]? = some item) (hkey : KeyAt item path key) :
      KeyAt (.array items) (i :: path) key

def NoLater (path other : List Nat) : Prop :=
  path = other ∨ List.Lex (· < ·) path other

variable {item value : Json} {items : List Json} {members : List (String × Json)}
variable {name key : String} {i j : Nat} {path other : List Nat}

/-! ## 1. The order of paths -/

theorem noLater_singleton : NoLater [i] (i :: path) := by
  cases path with
  | nil => exact .inl rfl
  | cons j rest => exact .inr (.cons .nil)

theorem noLater_of_lt (h : i < j) : NoLater (i :: path) (j :: other) :=
  .inr (.rel h)

theorem NoLater.cons (i : Nat) (h : NoLater path other) : NoLater (i :: path) (i :: other) := by
  rcases h with rfl | hlex
  · exact .inl rfl
  · exact .inr (.cons hlex)

theorem NoLater.succ (h : NoLater (i :: path) (j :: other)) :
    NoLater ((i + 1) :: path) ((j + 1) :: other) := by
  rcases h with heq | hlex
  · obtain ⟨rfl, rfl⟩ := List.cons.inj heq
    exact .inl rfl
  · cases hlex with
    | rel hlt => exact noLater_of_lt (Nat.succ_lt_succ hlt)
    | cons hrest => exact .inr (.cons hrest)

theorem noLater_antisymm (h : NoLater path other) (hback : NoLater other path) : path = other := by
  rcases h with heq | hlex
  · exact heq
  rcases hback with heq | hother
  · exact heq.symm
  · exact absurd hother (List.lex_asymm Nat.lt_asymm hlex)

/-! ## 2. Keys of a list's first part and of the rest -/

theorem exists_cons_of_keyAt (h : value.KeyAt path key) : ∃ i tail, path = i :: tail := by
  cases h <;> exact ⟨_, _, rfl⟩

theorem keyAt_array_cons : (array (item :: items)).KeyAt path key ↔
    (∃ tail, path = 0 :: tail ∧ item.KeyAt tail key) ∨
      ∃ i tail, path = (i + 1) :: tail ∧ (array items).KeyAt (i :: tail) key := by
  constructor
  · intro h
    cases h with
    | @inItem _ i _ tail _ hitem hkey =>
      cases i with
      | zero =>
        obtain rfl := Option.some.inj hitem
        exact .inl ⟨tail, rfl, hkey⟩
      | succ i => exact .inr ⟨i, tail, rfl, .inItem hitem hkey⟩
  · rintro (⟨tail, rfl, hkey⟩ | ⟨i, tail, rfl, hkey⟩)
    · exact .inItem rfl hkey
    · cases hkey with
      | inItem hitem hkey => exact .inItem hitem hkey

theorem keyAt_object_cons : (object ((name, value) :: members)).KeyAt path key ↔
    (path = [0] ∧ key = name) ∨ (∃ tail, path = 0 :: tail ∧ value.KeyAt tail key) ∨
      ∃ i tail, path = (i + 1) :: tail ∧ (object members).KeyAt (i :: tail) key := by
  constructor
  · intro h
    cases h with
    | @here _ i _ _ hmember =>
      cases i with
      | zero =>
        obtain ⟨rfl, rfl⟩ := Prod.mk.inj (Option.some.inj hmember)
        exact .inl ⟨rfl, rfl⟩
      | succ i => exact .inr (.inr ⟨i, [], rfl, .here hmember⟩)
    | @inMember _ i _ _ tail _ hmember hkey =>
      cases i with
      | zero =>
        obtain ⟨rfl, rfl⟩ := Prod.mk.inj (Option.some.inj hmember)
        exact .inr (.inl ⟨tail, rfl, hkey⟩)
      | succ i => exact .inr (.inr ⟨i, tail, rfl, .inMember hmember hkey⟩)
  · rintro (⟨rfl, rfl⟩ | ⟨tail, rfl, hkey⟩ | ⟨i, tail, rfl, hkey⟩)
    · exact .here rfl
    · exact .inMember rfl hkey
    · cases hkey with
      | here hmember => exact .here hmember
      | inMember hmember hkey => exact .inMember hmember hkey

theorem keyAt_unique {first second : String} (hfirst : value.KeyAt path first)
    (hsecond : value.KeyAt path second) : first = second := by
  induction hfirst with
  | here hmember =>
    cases hsecond with
    | here hother => exact (Prod.mk.inj (Option.some.inj (hmember.symm.trans hother))).1
    | inMember _ hkey => cases hkey
  | inMember hmember hkey ih =>
    cases hsecond with
    | here => cases hkey
    | inMember hother hlater =>
      obtain ⟨-, rfl⟩ := Prod.mk.inj (Option.some.inj (hmember.symm.trans hother))
      exact ih hlater
  | inItem hitem _ ih =>
    cases hsecond with
    | inItem hother hlater =>
      obtain rfl := Option.some.inj (hitem.symm.trans hother)
      exact ih hlater

/-! ## 3. Keys of one object -/

/-- The keys of one object, wherever it is in an ordered value, are in increasing order. -/
theorem lt_of_keyAt {first second : String} (hordered : value.Ordered) (hij : i < j)
    (hfirst : value.KeyAt (path ++ [i]) first) (hsecond : value.KeyAt (path ++ [j]) second) :
    first < second := by
  induction path generalizing value with
  | nil =>
    cases hfirst with
    | here hmember =>
      cases hsecond with
      | here hother =>
        obtain ⟨hi, hfirst⟩ := List.getElem?_eq_some_iff.mp hmember
        obtain ⟨hj, hsecond⟩ := List.getElem?_eq_some_iff.mp hother
        have hlt := List.pairwise_iff_getElem.mp (List.pairwise_map.mp hordered.1) i j hi hj hij
        rw [hfirst, hsecond] at hlt
        exact hlt
      | inMember _ hkey => cases hkey
    | inMember _ hkey => cases hkey
    | inItem _ hkey => cases hkey
  | cons k path ih =>
    -- Both keys are in the same member or item, and that is ordered itself.
    rw [List.cons_append] at hfirst hsecond
    generalize hinner : path ++ [i] = inner at hfirst
    generalize hother : path ++ [j] = outer at hsecond
    cases hfirst with
    | here => exact absurd hinner (by simp)
    | inItem hitem hkey =>
      cases hsecond with
      | inItem hsame hlater =>
        obtain rfl := Option.some.inj (hitem.symm.trans hsame)
        subst hinner hother
        exact ih ((orderedItems_iff _).mp hordered _ (List.mem_of_getElem? hitem)) hkey hlater
    | inMember hmember hkey =>
      cases hsecond with
      | here => exact absurd hother (by simp)
      | inMember hsame hlater =>
        obtain ⟨rfl, rfl⟩ := Prod.mk.inj (Option.some.inj (hmember.symm.trans hsame))
        subst hinner hother
        exact ih ((orderedMembers_iff _).mp hordered.2 _ (List.mem_of_getElem? hmember)) hkey hlater

end JobDesk.Json
