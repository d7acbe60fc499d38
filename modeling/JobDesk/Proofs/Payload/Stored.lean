import JobDesk.Proofs.Outcome
import JobDesk.Proofs.Payload.Typed
import JobDesk.Proofs.Payload.ZeroKeys

/-!
# Stored again — what was read from any bytes can be written

Whatever bytes a config is read from, its keys end before the first zero, and its objects are put in
order.  So it can be written again, and what is written is read as the same config, as long as it
has at most `2 ^ 32` bytes.
-/

namespace JobDesk

open Flexbuffer (Item ReadFault Tree)
open Payload (zeroKey? zeroKeyOfItems? holdsZero zeroKey?_ofDouble zeroKey?_ofMembers)

/-! ## 1. Keys in any bytes -/

namespace Flexbuffer.Item

variable {bytes : Bytes}

theorem zeroFrom?_ne_zero {rounds place stop i : Nat} (h : zeroFrom? bytes rounds place = some stop)
    (hfrom : place ≤ i) (hstop : i < stop) : bytes.getD i 1 ≠ 0 := by
  induction rounds generalizing place with
  | zero => exact absurd h (by simp [zeroFrom?])
  | succ rounds ih =>
    rw [zeroFrom?] at h
    by_cases hzero : bytes.getD place 1 = 0
    · rw [if_pos hzero, Option.some.injEq] at h
      omega
    · rw [if_neg hzero] at h
      by_cases hhere : i = place
      · exact hhere ▸ hzero
      · exact ih h (by omega)

theorem zero_notMem_extract {rounds place stop : Nat}
    (h : zeroFrom? bytes rounds place = some stop) :
    (0 : UInt8) ∉ (bytes.extract place stop).toList := by
  intro hmem
  obtain ⟨i, hi, hzero⟩ := List.getElem_of_mem hmem
  rw [Array.length_toList, Array.size_extract] at hi
  rw [Array.getElem_toList, Array.getElem_extract] at hzero
  refine zeroFrom?_ne_zero h (Nat.le_add_right place i) (by omega) ?_
  rw [Array.getD_eq_getD_getElem?, Array.getElem?_eq_getElem (by omega), Option.getD_some, hzero]

theorem holdsZero_keyText (address : Nat) : holdsZero (keyText bytes address) = false := by
  rw [← Bool.not_eq_true, Payload.holdsZero_eq_true]
  intro hmem
  simp only [keyText] at hmem
  cases hstop : zeroFrom? bytes (bytes.size - address) address with
  | none => simp [hstop] at hmem
  | some stop =>
    cases htext : Bytes.toText? (bytes.extract address stop) with
    | none => simp [hstop, htext] at hmem
    | some key =>
      simp only [hstop, htext, Option.getD_some] at hmem
      -- The character zero is written as the byte zero.
      have hbyte : (0 : UInt8) ∈ (Bytes.ofText key).toList := by
        rw [Bytes.toList_ofText]
        exact List.mem_flatMap.mpr ⟨'\x00', hmem, by decide⟩
      rw [Bytes.ofText_of_toText? htext] at hbyte
      exact zero_notMem_extract hstop hbyte

end Flexbuffer.Item

/-! ## 2. Values in any bytes -/

namespace Json

structure Storable (value : Json) : Prop where
  ordered : value.Ordered
  zero : zeroKey? value = none

theorem storable_ofDouble (x : Binary64) : (ofDouble x).Storable :=
  ⟨ordered_ofDouble x, zeroKey?_ofDouble x⟩

theorem storable_ofInt (n : Int) : (ofInt n).Storable := by
  unfold ofInt
  split
  · exact ⟨trivial, rfl⟩
  · exact storable_ofDouble _

theorem storable_array {items : List Json} (h : ∀ item ∈ items, item.Storable) :
    (array items).Storable := by
  refine ⟨(orderedItems_iff items).mpr fun item hitem => (h item hitem).ordered, ?_⟩
  rw [zeroKey?]
  induction items with
  | nil => rfl
  | cons item rest ih =>
    rw [List.forall_mem_cons] at h
    rw [zeroKeyOfItems?, h.1.zero]
    exact ih h.2

theorem storable_ofMembers {members : List (String × Json)}
    (h : ∀ member ∈ members, holdsZero member.1 = false ∧ member.2.Storable) :
    (ofMembers members).Storable :=
  ⟨ordered_ofMembers fun member hmem => (h member hmem).2.ordered,
    zeroKey?_ofMembers fun member hmem => ⟨(h member hmem).1, (h member hmem).2.zero⟩⟩

end Json

namespace Flexbuffer

theorem mem_of_collect {ε α : Type} {step : Nat → Except ε α} {rounds index : Nat}
    {found results : List α} (h : collect step rounds index found = .ok results) :
    ∀ value ∈ results, value ∈ found ∨ ∃ i, step i = .ok value := by
  induction rounds generalizing index found with
  | zero =>
    obtain rfl := Except.ok.inj h
    exact fun value hmem => .inl (List.mem_reverse.mp hmem)
  | succ rounds ih =>
    rw [collect] at h
    cases hstep : step index with
    | error fault =>
      rw [hstep] at h
      cases h
    | ok first =>
      rw [hstep] at h
      intro value hmem
      rcases ih h value hmem with hfound | hlater
      · rcases List.mem_cons.mp hfound with rfl | hbefore
        · exact .inr ⟨index, hstep⟩
        · exact .inl hbefore
      · exact .inr hlater

namespace Item

variable {bytes : Bytes}

/-- What an item is read as, if what is in it is read as `inner` says. -/
inductive ReadAs (bytes : Bytes) (inner : Json → Prop) : Json → Prop
  | null : ReadAs bytes inner .null
  | bool (b : Bool) : ReadAs bytes inner (.bool b)
  | int (n : Int) : ReadAs bytes inner (Json.ofInt n)
  | double (x : Binary64) : ReadAs bytes inner (Json.ofDouble x)
  | string (s : String) : ReadAs bytes inner (.string s)
  | array {items : List Json} (hitems : ∀ item ∈ items, item = .null ∨ inner item) :
      ReadAs bytes inner (.array items)
  | object {members : List (String × Json)}
      (hmembers : ∀ member ∈ members, (∃ address, member.1 = keyText bytes address) ∧
        (member.2 = .null ∨ inner member.2)) : ReadAs bytes inner (Json.ofMembers members)

theorem readAs_double {inner : Json → Prop} {item : Item} {value : Json}
    (h : item.double bytes = .ok value) : ReadAs bytes inner value := by
  unfold double at h
  split at h
  · obtain rfl := Except.ok.inj h
    exact .double _
  · obtain rfl := Except.ok.inj h
    exact .double _
  · cases h

theorem exists_keyText {keys : Keys} {index : Nat} {key : String}
    (h : keys.get? bytes index = some key) : ∃ address, key = keyText bytes address := by
  unfold Keys.get? at h
  split at h
  · exact ⟨_, (Option.some.inj h).symm⟩
  · cases h

theorem readAs_toJson {depth : Nat} {item : Item} {value : Json}
    (h : item.toJson bytes (depth + 1) = .ok value) :
    ReadAs bytes (fun value => ∃ inner, toJson bytes depth inner = .ok value) value := by
  simp only [toJson] at h
  split at h
  · obtain rfl := Except.ok.inj h
    exact .null
  · obtain rfl := Except.ok.inj h
    exact .bool _
  -- Integers with a sign and without, in the slot and behind an address.
  iterate 4
    · obtain rfl := Except.ok.inj h
      exact .int _
  iterate 2
    · exact readAs_double h
  -- Texts, and keys that are read as texts.
  iterate 2
    · obtain rfl := Except.ok.inj h
      exact .string _
  -- A run of bytes has no JSON value.
  · split at h <;> cases h
  · obtain ⟨keys, hkeys, h⟩ := ok_of_bind h
    obtain ⟨members, hmembers, h⟩ := ok_of_bind h
    obtain rfl := Except.ok.inj h
    refine .object fun member hmem => ?_
    rcases mem_of_collect hmembers member hmem with hnone | ⟨i, hstep⟩
    · cases hnone
    split at hstep
    · cases hstep
    · rename_i key hkey
      split at hstep
      · obtain rfl := Except.ok.inj hstep
        exact ⟨exists_keyText hkey, .inl rfl⟩
      · obtain ⟨value, hvalue, rfl⟩ := ok_of_map hstep
        exact ⟨exists_keyText hkey, .inr ⟨_, hvalue⟩⟩
  -- The six kinds of lists differ only in where their items come from.
  all_goals
    obtain ⟨items, hitems, h⟩ := ok_of_bind h
    obtain rfl := Except.ok.inj h
    refine .array fun found hmem => ?_
    rcases mem_of_collect hitems found hmem with hnone | ⟨i, hstep⟩
    · cases hnone
    split at hstep
    · exact .inl (Except.ok.inj hstep).symm
    · exact .inr ⟨_, hstep⟩

theorem storable_toJson {depth : Nat} {item : Item} {value : Json}
    (h : item.toJson bytes depth = .ok value) : value.Storable := by
  have hnull : Json.null.Storable := ⟨trivial, rfl⟩
  induction depth generalizing item value with
  | zero => cases h
  | succ depth ih =>
    cases readAs_toJson h with
    | null => exact hnull
    | bool b => exact ⟨trivial, rfl⟩
    | int n => exact Json.storable_ofInt n
    | double x => exact Json.storable_ofDouble x
    | string s => exact ⟨trivial, rfl⟩
    | array hitems =>
      refine Json.storable_array fun found hmem => ?_
      rcases hitems found hmem with rfl | ⟨inner, hinner⟩
      · exact hnull
      · exact ih hinner
    | object hmembers =>
      refine Json.storable_ofMembers fun member hmem => ?_
      obtain ⟨⟨address, hkey⟩, hvalue⟩ := hmembers member hmem
      refine ⟨hkey ▸ holdsZero_keyText address, ?_⟩
      rcases hvalue with hnone | ⟨inner, hinner⟩
      · exact hnone ▸ hnull
      · exact ih hinner

end Item

end Flexbuffer

/-! ## 3. Stored again -/

namespace Payload

/-- A payload is read as a config when its items are followed down to some depth. -/
def ReadAs (payload : Bytes) (config : Json) : Prop :=
  ∃ root depth, Item.root payload = .ok root ∧ root.toJson payload depth = .ok config

theorem readAs_of_decode {payload : Bytes} {config : Json} (h : decode payload = .ok config) :
    ReadAs payload config := by
  obtain ⟨root, hroot, hread⟩ := ok_of_bind h
  exact ⟨root, _, ok_of_mapError hroot, hread⟩

/-- The config of any payload has no zero in a key, so it has a payload of its own, and up to
`2 ^ 32` bytes that one is decoded to the same config. -/
theorem decoded_is_stored_again (payload : Bytes) (config : Json) :
    (decode payload = .ok config → ReadAs payload config) ∧
    (ReadAs payload config → config.ZeroFree ∧ ∃ again, encode config = .ok again ∧
      (again.size ≤ 0x100000000 → decode again = .ok config)) := by
  refine ⟨readAs_of_decode, ?_⟩
  -- Nothing is said of the bytes: the value alone decides what is written.
  rintro ⟨root, depth, -, hread⟩
  obtain ⟨hordered, hzero⟩ := Item.storable_toJson hread
  exact ⟨zeroKey?_eq_none_iff.mp hzero, _, encode_eq_ok_iff.mpr ⟨hzero, rfl⟩, fun hsize =>
    decode_toBytes hordered hzero (by omega) (Tree.inReach_of_size hsize)⟩

/-- A map whose two keys stand at one address: the value of the first is a number, that of the
second a key, which is read as a text. -/
def sharedKeyPayload : Bytes :=
  #[0x61, 0, 2, 3, 4, 2, 1, 2, 7, 9, 8, 16, 4, 36, 1]

theorem sharedKeyPayload_stored_again :
    decode sharedKeyPayload = .ok (.object [("a", .string "a")]) ∧
    ∃ again, encode (.object [("a", .string "a")]) = .ok again ∧
      decode again = .ok (.object [("a", .string "a")]) := by
  have hread : decode sharedKeyPayload =
      .ok (Json.ofMembers [("a", Json.ofInt 7), ("a", .string "a")]) := rfl
  have hlast : Json.ofMembers [("a", Json.ofInt 7), ("a", .string "a")] =
      .object [("a", .string "a")] := by
    rw [Json.ofMembers, Json.sortMembers, List.mergeSort_of_pairwise (by decide)]
    rfl
  have hdecode := hlast ▸ hread
  obtain ⟨hlimit, hstored⟩ :=
    decoded_is_stored_again sharedKeyPayload (.object [("a", .string "a")])
  obtain ⟨-, again, hencode, hagain⟩ := hstored (hlimit hdecode)
  have hsize := Tree.size_toBytes_ofJson_le (.object [("a", .string "a")])
  have hweight : Json.weight (.object [("a", .string "a")]) ≤ 100 := by decide
  rw [(encode_eq_ok_iff.mp hencode).2] at hsize
  exact ⟨hdecode, again, hencode, hagain (by omega)⟩

/-- A list that is decoded from slots of eight bytes is stored again in slots of four, and that
payload is decoded to another one. -/
theorem wideSlots_lost_again :
    decode (Flexbuffer.limitInWideSlots Flexbuffer.limitText) = .ok longConfig ∧
      ∃ again, encode longConfig = .ok again ∧ again.size = 0x10000000c ∧
        ∃ other, decode again = .ok other ∧ longConfig ≠ other :=
  ⟨Flexbuffer.toJson_limitInWideSlots Flexbuffer.size_ofText_limitText, _, encode_longConfig,
    Flexbuffer.size_toBytes_limit Flexbuffer.size_ofText_limitText, _, decode_longPayload⟩

end Payload

end JobDesk
