import JobDesk.Coordinator.Basic
import JobDesk.Proofs.Json.Places
import JobDesk.Proofs.Payload.RoundTrip
import JobDesk.Proofs.Text.ByteOrder
import JobDesk.Proofs.Text.Quoted
import JobDesk.Store.Memory

/-!
# Zero keys — the configs that are refused, and the key that is named

A config is refused just when some key, at any depth, holds a zero character.  The fault names the
first such key in the order of the paths; what the texts of the config hold does not matter.
-/

namespace JobDesk

open Payload (zeroKey? zeroKeyOfItems? zeroKeyOfMembers? holdsZero)

namespace Json

/-! ## 1. The first key with a zero -/

def ZeroFree (value : Json) : Prop :=
  ∀ path key, value.KeyAt path key → '\x00' ∉ key.toList

/-- The first key of a value that holds a zero character, in the order of the paths. -/
structure FirstZero (value : Json) (path : List Nat) (key : String) : Prop where
  keyAt : value.KeyAt path key
  zero : '\x00' ∈ key.toList
  first : ∀ other name, value.KeyAt other name → '\x00' ∈ name.toList → NoLater path other

variable {item value : Json} {items : List Json} {members : List (String × Json)}
variable {name key : String} {path : List Nat}

theorem zeroFree_array_nil : (array []).ZeroFree := by
  intro path key h
  cases h with
  | inItem hitem => cases hitem

theorem zeroFree_object_nil : (object []).ZeroFree := by
  intro path key h
  cases h with
  | here hmember => cases hmember
  | inMember hmember => cases hmember

theorem ZeroFree.array_cons (hitem : item.ZeroFree) (hitems : (array items).ZeroFree) :
    (array (item :: items)).ZeroFree := by
  intro path key h
  rcases keyAt_array_cons.mp h with ⟨tail, -, hkey⟩ | ⟨i, tail, -, hkey⟩
  · exact hitem tail key hkey
  · exact hitems (i :: tail) key hkey

theorem ZeroFree.object_cons (hname : '\x00' ∉ name.toList) (hvalue : value.ZeroFree)
    (hmembers : (object members).ZeroFree) : (object ((name, value) :: members)).ZeroFree := by
  intro path key h
  rcases keyAt_object_cons.mp h with ⟨-, rfl⟩ | ⟨tail, -, hkey⟩ | ⟨i, tail, -, hkey⟩
  · exact hname
  · exact hvalue tail key hkey
  · exact hmembers (i :: tail) key hkey

theorem FirstZero.array_head (h : item.FirstZero path key) :
    (array (item :: items)).FirstZero (0 :: path) key := by
  refine ⟨keyAt_array_cons.mpr (.inl ⟨path, rfl, h.keyAt⟩), h.zero, fun other found hat hzero => ?_⟩
  rcases keyAt_array_cons.mp hat with ⟨tail, rfl, hkey⟩ | ⟨i, tail, rfl, -⟩
  · exact (h.first tail found hkey hzero).cons 0
  · exact noLater_of_lt (Nat.succ_pos i)

theorem FirstZero.array_tail {i : Nat} (hitem : item.ZeroFree)
    (h : (array items).FirstZero (i :: path) key) :
    (array (item :: items)).FirstZero ((i + 1) :: path) key := by
  refine ⟨keyAt_array_cons.mpr (.inr ⟨i, path, rfl, h.keyAt⟩), h.zero,
    fun other found hat hzero => ?_⟩
  rcases keyAt_array_cons.mp hat with ⟨tail, rfl, hkey⟩ | ⟨j, tail, rfl, hkey⟩
  · exact absurd hzero (hitem tail found hkey)
  · exact (h.first (j :: tail) found hkey hzero).succ

theorem firstZero_object_key (hzero : '\x00' ∈ name.toList) :
    (object ((name, value) :: members)).FirstZero [0] name := by
  refine ⟨keyAt_object_cons.mpr (.inl ⟨rfl, rfl⟩), hzero, fun other found hat _ => ?_⟩
  obtain ⟨i, tail, rfl⟩ := exists_cons_of_keyAt hat
  rcases Nat.eq_zero_or_pos i with rfl | hpos
  · exact noLater_singleton
  · exact noLater_of_lt hpos

theorem FirstZero.object_head (hname : '\x00' ∉ name.toList) (h : value.FirstZero path key) :
    (object ((name, value) :: members)).FirstZero (0 :: path) key := by
  refine ⟨keyAt_object_cons.mpr (.inr (.inl ⟨path, rfl, h.keyAt⟩)), h.zero,
    fun other found hat hzero => ?_⟩
  rcases keyAt_object_cons.mp hat with ⟨rfl, rfl⟩ | ⟨tail, rfl, hkey⟩ | ⟨i, tail, rfl, -⟩
  · exact absurd hzero hname
  · exact (h.first tail found hkey hzero).cons 0
  · exact noLater_of_lt (Nat.succ_pos i)

theorem FirstZero.object_tail {i : Nat} (hname : '\x00' ∉ name.toList) (hvalue : value.ZeroFree)
    (h : (object members).FirstZero (i :: path) key) :
    (object ((name, value) :: members)).FirstZero ((i + 1) :: path) key := by
  refine ⟨keyAt_object_cons.mpr (.inr (.inr ⟨i, path, rfl, h.keyAt⟩)), h.zero,
    fun other found hat hzero => ?_⟩
  rcases keyAt_object_cons.mp hat with ⟨rfl, rfl⟩ | ⟨tail, rfl, hkey⟩ | ⟨j, tail, rfl, hkey⟩
  · exact absurd hzero hname
  · exact absurd hzero (hvalue tail found hkey)
  · exact (h.first (j :: tail) found hkey hzero).succ

/-! ## 2. The search -/

def SearchedFor (value : Json) : Option String → Prop
  | some key => ∃ path, value.FirstZero path key
  | none => value.ZeroFree

end Json

namespace Payload

open Json

theorem holdsZero_eq_true {key : String} : holdsZero key = true ↔ '\x00' ∈ key.toList := by
  rw [holdsZero_eq_any, List.any_eq_true]
  constructor
  · rintro ⟨c, hc, hzero⟩
    rw [beq_iff_eq] at hzero
    exact hzero ▸ hc
  · exact fun h => ⟨'\x00', h, rfl⟩

mutual

theorem searchedFor_zeroKey? (value : Json) : value.SearchedFor (zeroKey? value) := by
  cases value with
  | null | bool | integer | float | string =>
    intro path key h
    cases h
  | array items => exact searchedFor_zeroKeyOfItems? items
  | object members => exact searchedFor_zeroKeyOfMembers? members

theorem searchedFor_zeroKeyOfItems? (items : List Json) :
    (array items).SearchedFor (zeroKeyOfItems? items) := by
  cases items with
  | nil => exact zeroFree_array_nil
  | cons item rest =>
    have hitem := searchedFor_zeroKey? item
    have hrest := searchedFor_zeroKeyOfItems? rest
    rw [zeroKeyOfItems?]
    cases hfound : zeroKey? item with
    | some key =>
      rw [hfound] at hitem
      obtain ⟨path, hfirst⟩ := hitem
      exact ⟨0 :: path, hfirst.array_head⟩
    | none =>
      rw [hfound] at hitem
      -- What is found in the rest is one place further on in the whole.
      cases hlater : zeroKeyOfItems? rest with
      | some key =>
        rw [hlater] at hrest
        obtain ⟨path, hfirst⟩ := hrest
        obtain ⟨i, tail, rfl⟩ := exists_cons_of_keyAt hfirst.keyAt
        exact ⟨(i + 1) :: tail, hfirst.array_tail hitem⟩
      | none =>
        rw [hlater] at hrest
        exact ZeroFree.array_cons hitem hrest

theorem searchedFor_zeroKeyOfMembers? (members : List (String × Json)) :
    (object members).SearchedFor (zeroKeyOfMembers? members) := by
  cases members with
  | nil => exact zeroFree_object_nil
  | cons member rest =>
    obtain ⟨name, value⟩ := member
    have hvalue := searchedFor_zeroKey? value
    have hrest := searchedFor_zeroKeyOfMembers? rest
    rw [zeroKeyOfMembers?]
    -- The key of a member comes first, then the keys in its value, then those of the rest.
    by_cases hname : holdsZero name = true
    · rw [if_pos hname]
      exact ⟨[0], firstZero_object_key (holdsZero_eq_true.mp hname)⟩
    rw [if_neg hname]
    rw [holdsZero_eq_true] at hname
    cases hfound : zeroKey? value with
    | some key =>
      rw [hfound] at hvalue
      obtain ⟨path, hfirst⟩ := hvalue
      exact ⟨0 :: path, hfirst.object_head hname⟩
    | none =>
      rw [hfound] at hvalue
      cases hlater : zeroKeyOfMembers? rest with
      | some key =>
        rw [hlater] at hrest
        obtain ⟨path, hfirst⟩ := hrest
        obtain ⟨i, tail, rfl⟩ := exists_cons_of_keyAt hfirst.keyAt
        exact ⟨(i + 1) :: tail, hfirst.object_tail hname hvalue⟩
      | none =>
        rw [hlater] at hrest
        exact ZeroFree.object_cons hname hvalue hrest

end

theorem zeroKey?_eq_none_iff {config : Json} : zeroKey? config = none ↔ config.ZeroFree := by
  have hsearch := searchedFor_zeroKey? config
  cases hfound : zeroKey? config with
  | none =>
    rw [hfound] at hsearch
    exact ⟨fun _ => hsearch, fun _ => rfl⟩
  | some key =>
    rw [hfound] at hsearch
    obtain ⟨path, hfirst⟩ := hsearch
    exact ⟨fun h => absurd h (by simp), fun h => absurd hfirst.zero (h path key hfirst.keyAt)⟩

theorem firstZero_of_zeroKey? {config : Json} {key : String} (h : zeroKey? config = some key) :
    ∃ path, config.FirstZero path key := by
  have hsearch := searchedFor_zeroKey? config
  rw [h] at hsearch
  exact hsearch

theorem zeroKey?_of_firstZero {config : Json} {path : List Nat} {key : String}
    (h : config.FirstZero path key) : zeroKey? config = some key := by
  cases hfound : zeroKey? config with
  | none => exact absurd h.zero (zeroKey?_eq_none_iff.mp hfound path key h.keyAt)
  | some found =>
    obtain ⟨other, hfirst⟩ := firstZero_of_zeroKey? hfound
    -- Each of the two paths is no later than the other one.
    have hle := h.first other found hfirst.keyAt hfirst.zero
    have hge := hfirst.first path key h.keyAt h.zero
    rw [noLater_antisymm hle hge] at h
    exact congrArg some (keyAt_unique hfirst.keyAt h.keyAt)

/-! ## 3. What is refused -/

theorem encode_eq_error_iff {config : Json} {fault : EncodeFault} :
    encode config = .error fault ↔ ∃ key, zeroKey? config = some key ∧ fault = .zeroInKey key := by
  unfold encode
  cases zeroKey? config <;> simp [eq_comm]

theorem message_injective {key other : String}
    (h : (EncodeFault.zeroInKey key).message = (EncodeFault.zeroInKey other).message) :
    key = other := by
  have hchars := congrArg String.toList h
  simp only [EncodeFault.message, String.toList_append, toString] at hchars
  have hquoted := List.append_cancel_left (List.append_cancel_right hchars)
  exact Text.quoted_injective (String.toList_inj.mp hquoted)

theorem submit_of_firstZero {σ : Type} [JobStore σ] {c : Coordinator} (store : σ) {config : Json}
    {path : List Nat} {key : String} (hrunning : c.isShutDown = false)
    (hfirst : config.FirstZero path key) : c.submit store config =
      ⟨.error (.encoding s!"map key {Text.quoted key} contains a NUL character"), store, []⟩ := by
  have hencode := encode_eq_error_iff.mpr ⟨key, zeroKey?_of_firstZero hfirst, rfl⟩
  simp only [Coordinator.submit, Coordinator.whenRunning, hrunning, hencode]
  rfl

/-- A config is refused just if one of its keys holds a zero.  The fault then names the first one in
the order of the paths, in which the keys of one object are in the order of their bytes, and its
wording tells that key from all others.  Nothing is stored. -/
theorem encode_refuses_zero_keys (config : Json) :
    ((∃ fault, encode config = .error fault) ↔
      ∃ path key, config.KeyAt path key ∧ '\x00' ∈ key.toList) ∧
    (∀ fault, encode config = .error fault →
      ∃ path key, config.FirstZero path key ∧ fault = .zeroInKey key) ∧
    ((¬ ∃ path key, config.KeyAt path key ∧ '\x00' ∈ key.toList) →
      ∃ payload, encode config = .ok payload) ∧
    (config.Ordered → ∀ path i j first second, i < j → config.KeyAt (path ++ [i]) first →
      config.KeyAt (path ++ [j]) second →
      List.Lex (· < ·) (Bytes.ofText first).toList (Bytes.ofText second).toList) ∧
    (∀ {σ : Type} [JobStore σ] (c : Coordinator) (store : σ) path key, c.isShutDown = false →
      config.FirstZero path key → c.submit store config =
        ⟨.error (.encoding s!"map key {Text.quoted key} contains a NUL character"), store, []⟩) ∧
    ∀ key other, (EncodeFault.zeroInKey key).message = (EncodeFault.zeroInKey other).message →
      key = other := by
  -- The search names the first key with a zero; both directions of the equivalence come from it.
  have hnames : ∀ fault, encode config = .error fault →
      ∃ path key, config.FirstZero path key ∧ fault = .zeroInKey key := by
    intro fault h
    obtain ⟨key, hfound, rfl⟩ := encode_eq_error_iff.mp h
    obtain ⟨path, hfirst⟩ := firstZero_of_zeroKey? hfound
    exact ⟨path, key, hfirst, rfl⟩
  have hpasses : (¬ ∃ path key, config.KeyAt path key ∧ '\x00' ∈ key.toList) →
      ∃ payload, encode config = .ok payload := by
    intro hfree
    have hnone := zeroKey?_eq_none_iff.mpr fun path key hat hzero => hfree ⟨path, key, hat, hzero⟩
    exact ⟨_, encode_eq_ok_iff.mpr ⟨hnone, rfl⟩⟩
  refine ⟨⟨?_, ?_⟩, hnames, hpasses, ?_, ?_, fun _ _ => message_injective⟩
  · rintro ⟨fault, h⟩
    obtain ⟨path, key, hfirst, -⟩ := hnames fault h
    exact ⟨path, key, hfirst.keyAt, hfirst.zero⟩
  · rintro ⟨path, key, hat, hzero⟩
    cases hfound : zeroKey? config with
    | none => exact absurd hzero (zeroKey?_eq_none_iff.mp hfound path key hat)
    | some found => exact ⟨_, encode_eq_error_iff.mpr ⟨found, hfound, rfl⟩⟩
  · intro hordered path i j first second hij hfirst hsecond
    exact Bytes.ofText_lex (lt_of_keyAt hordered hij hfirst hsecond)
  · intro σ _ c store path key hrunning hfirst
    exact submit_of_firstZero store hrunning hfirst

/-- A config with a zero in a text, one in a deep key, and one in a later key that is less deep. -/
def deepZeroConfig : Json :=
  .object [("a", .array [.string "\x00", .object [("b", .null), ("c\x00", .bool true)]]),
    ("d\x00", .null)]

theorem deepZeroConfig_refused :
    (∃ path, deepZeroConfig.FirstZero path "c\x00") ∧
    encode deepZeroConfig = .error (.zeroInKey "c\x00") ∧
    Coordinator.submit {} ({} : MemoryStore) deepZeroConfig =
      ⟨.error (.encoding "map key \"c\\0\" contains a NUL character"), {}, []⟩ ∧
    List.Lex (· < ·) (Bytes.ofText "a").toList (Bytes.ofText "d\x00").toList := by
  have hfound : zeroKey? deepZeroConfig = some "c\x00" := by
    simp [deepZeroConfig, zeroKey?, zeroKeyOfItems?, zeroKeyOfMembers?, holdsZero_eq_any]
  have hordered : deepZeroConfig.Ordered := by
    have hbc : "b" < "c\x00" := by decide
    have had : "a" < "d\x00" := by decide
    simp only [deepZeroConfig, Ordered, OrderedItems, OrderedMembers, List.map_cons, List.map_nil,
      List.pairwise_cons, List.mem_singleton, forall_eq, List.not_mem_nil, hbc, had, and_self,
      false_imp_iff, implies_true, List.Pairwise.nil]
  have hencode := encode_eq_error_iff.mpr ⟨_, hfound, rfl⟩
  obtain ⟨-, hnames, -, hsorted, hsubmit, -⟩ := encode_refuses_zero_keys deepZeroConfig
  obtain ⟨path, key, hfirst, hkey⟩ := hnames _ hencode
  obtain rfl := EncodeFault.zeroInKey.inj hkey
  have hsubmitted := hsubmit {} ({} : MemoryStore) path _ rfl hfirst
  have hquoted : Text.quoted "c\x00" = "\"c\\0\"" :=
    String.toList_inj.mp (by rw [Text.toList_quoted]; decide)
  rw [hquoted] at hsubmitted
  exact ⟨⟨path, hfirst⟩, hencode, hsubmitted,
    hsorted hordered [] 0 1 "a" "d\x00" (by decide) (.here rfl) (.here rfl)⟩

end Payload

end JobDesk
