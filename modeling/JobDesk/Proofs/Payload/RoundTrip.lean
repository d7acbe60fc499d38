import JobDesk.Payload.Basic
import JobDesk.Proofs.Flexbuffer.Limit
import JobDesk.Proofs.Flexbuffer.Size
import JobDesk.Proofs.Json.Reading

/-!
# Round trip — configs read from their payloads

The tree of an ordered config stands for the config again, and it can be written when no key holds a
zero character, which is just what `encode` checks.  So a payload of at most `2 ^ 32` bytes is
decoded to the config that it was made of; a longer one need not be.  Payloads of configs that are
light, as those read from a short text are, are short.
-/

namespace JobDesk

open Payload (zeroKey? zeroKeyOfItems? zeroKeyOfMembers?)

/-! ## 1. Keys with a zero -/

namespace Payload

theorem holdsZero_eq_any (key : String) : holdsZero key = key.toList.any (· == '\x00') := by
  change key.contains (· == '\x00') = _
  rw [String.contains_bool_eq]

theorem notMem_of_holdsZero {key : String} (h : holdsZero key = false) : '\x00' ∉ key.toList := by
  intro hmem
  rw [holdsZero_eq_any, List.any_eq_false] at h
  exact h '\x00' hmem rfl

end Payload

/-! ## 2. Trees of configs -/

namespace Json

theorem ofInt_val (n : JsonInteger) : ofInt n.val = .integer n := by
  rw [ofInt, dif_pos n.property]

theorem ofDouble_val (x : FiniteDouble) : ofDouble x.val = .float x := by
  rw [ofDouble, dif_pos x.property]

theorem ofMembers_of_pairwise {members : List (String × Json)}
    (h : (members.map (·.1)).Pairwise (· < ·)) : ofMembers members = .object members := by
  rw [ofMembers, sortMembers_eq_self (List.pairwise_map.mp h)]

end Json

namespace Flexbuffer.Tree

theorem ofItems_eq (items : List Json) (made : List Tree) :
    ofItems items made = made.reverse ++ ofItems items [] := by
  induction items generalizing made with
  | nil => simp [ofItems]
  | cons item rest ih =>
    rw [ofItems, ih, ofItems, ih [ofJson item], List.reverse_cons, List.append_assoc]
    rfl

theorem ofMembers_eq (members : List (String × Json)) (made : List (String × Tree)) :
    ofMembers members made = made.reverse ++ ofMembers members [] := by
  induction members generalizing made with
  | nil => simp [ofMembers]
  | cons member rest ih =>
    obtain ⟨key, value⟩ := member
    rw [ofMembers, ih, ofMembers, ih [(key, ofJson value)], List.reverse_cons, List.append_assoc]
    rfl

@[simp] theorem ofItems_cons (item : Json) (rest : List Json) :
    ofItems (item :: rest) [] = ofJson item :: ofItems rest [] := by
  rw [ofItems, ofItems_eq]
  rfl

@[simp] theorem ofMembers_cons (key : String) (value : Json) (rest : List (String × Json)) :
    ofMembers ((key, value) :: rest) [] = (key, ofJson value) :: ofMembers rest [] := by
  rw [ofMembers, ofMembers_eq]
  rfl

theorem value_ofJson_integer (n : JsonInteger) : (ofJson (.integer n)).value = .integer n := by
  obtain ⟨n, hlow, hhigh⟩ := n
  simp only [ofJson]
  -- A negative integer is put down with its sign, any other one without.
  split
  · rename_i hneg
    rw [value, Int64.toInt_ofInt_of_le hlow (by omega)]
    exact Json.ofInt_val ⟨n, hlow, hhigh⟩
  · rename_i hpos
    have hnat : (UInt64.ofNat n.toNat).toNat = n.toNat :=
      UInt64.toNat_ofNat_of_lt' (show _ < 2 ^ 64 by omega)
    rw [value, hnat, Int.toNat_of_nonneg (by omega)]
    exact Json.ofInt_val ⟨n, hlow, hhigh⟩

mutual

theorem value_ofJson (config : Json) (h : config.Ordered) : (ofJson config).value = config := by
  cases config with
  | null | bool | string => rfl
  | integer n => exact value_ofJson_integer n
  | float x => exact Json.ofDouble_val x
  | array items => rw [ofJson, value, values_ofItems items h]
  | object members =>
    rw [ofJson, value, memberValues_ofMembers members h.2, Json.ofMembers_of_pairwise h.1]

theorem values_ofItems (items : List Json) (h : Json.OrderedItems items) :
    values (ofItems items []) = items := by
  cases items with
  | nil => rfl
  | cons item rest => rw [ofItems_cons, values, value_ofJson item h.1, values_ofItems rest h.2]

theorem memberValues_ofMembers (members : List (String × Json)) (h : Json.OrderedMembers members) :
    memberValues (ofMembers members []) = members := by
  cases members with
  | nil => rfl
  | cons member rest =>
    obtain ⟨key, item⟩ := member
    rw [ofMembers_cons, memberValues, value_ofJson item h.1, memberValues_ofMembers rest h.2]

end

/-! ## 3. Trees that JSON holds -/

mutual

/-- JSON holds the tree of a value that has no key with a zero character. -/
theorem plain_ofJson (config : Json) (h : zeroKey? config = none) : (ofJson config).Plain := by
  cases config with
  | null | bool | string | float => simp [ofJson, Plain]
  | integer n =>
    simp only [ofJson]
    split <;> simp [Plain]
  | array items =>
    rw [zeroKey?] at h
    simp only [ofJson, Plain]
    exact plainItems_ofItems items h
  | object members =>
    rw [zeroKey?] at h
    simp only [ofJson, Plain]
    exact plainMembers_ofMembers members h

theorem plainItems_ofItems (items : List Json) (h : zeroKeyOfItems? items = none) :
    PlainItems (ofItems items []) := by
  cases items with
  | nil => simp [ofItems, PlainItems]
  | cons item rest =>
    rw [zeroKeyOfItems?] at h
    split at h
    · exact absurd h (by simp)
    · rename_i hitem
      rw [ofItems_cons, PlainItems]
      exact ⟨plain_ofJson item hitem, plainItems_ofItems rest h⟩

theorem plainMembers_ofMembers (members : List (String × Json))
    (h : zeroKeyOfMembers? members = none) : PlainMembers (ofMembers members []) := by
  cases members with
  | nil => simp [ofMembers, PlainMembers]
  | cons member rest =>
    obtain ⟨key, item⟩ := member
    rw [zeroKeyOfMembers?] at h
    -- The key is looked at before its value, and both before the members behind them.
    split at h
    · exact absurd h (by simp)
    · rename_i hkey
      split at h
      · exact absurd h (by simp)
      · rename_i hitem
        rw [ofMembers_cons, PlainMembers]
        exact ⟨Payload.notMem_of_holdsZero (by simpa using hkey), plain_ofJson item hitem,
          plainMembers_ofMembers rest h⟩

end

/-! ## 4. Trees of light configs -/

mutual

theorem bulk_ofJson_le (config : Json) : (ofJson config).bulk ≤ 46 * config.weight := by
  cases config with
  | null | bool | float => simp [ofJson, bulk]
  | integer n =>
    simp only [ofJson]
    split <;> simp [bulk]
  | string s =>
    have hsize := Bytes.size_ofText_le s
    simp only [ofJson, bulk, Json.weight]
    omega
  | array items =>
    have hitems := bulkItems_ofItems_le items
    simp only [ofJson, bulk, Json.weight]
    omega
  | object members =>
    have hmembers := bulkMembers_ofMembers_le members
    simp only [ofJson, bulk, Json.weight]
    omega

theorem bulkItems_ofItems_le (items : List Json) :
    bulkItems (ofItems items []) ≤ 46 * Json.weightItems items := by
  cases items with
  | nil => exact Nat.le_refl _
  | cons item rest =>
    have hitem := bulk_ofJson_le item
    have hrest := bulkItems_ofItems_le rest
    rw [ofItems_cons, bulkItems, Json.weightItems]
    omega

theorem bulkMembers_ofMembers_le (members : List (String × Json)) :
    bulkMembers (ofMembers members []) ≤ 46 * Json.weightMembers members := by
  cases members with
  | nil => exact Nat.le_refl _
  | cons member rest =>
    obtain ⟨key, item⟩ := member
    -- A character has four bytes at most, and a member weighs more than its key and its value.
    have hkey := Bytes.size_ofText_le key
    have hitem := bulk_ofJson_le item
    have hrest := bulkMembers_ofMembers_le rest
    rw [ofMembers_cons, bulkMembers, Json.weightMembers]
    omega

end

theorem size_toBytes_ofJson_le (config : Json) :
    (ofJson config).toBytes.size ≤ 46 * config.weight + 17 := by
  have hbulk := bulk_ofJson_le config
  have hsize := size_toBytes_le (ofJson config)
  omega

end Flexbuffer.Tree

/-! ## 5. Payloads -/

namespace Payload

theorem encode_eq_ok_iff {config : Json} {bytes : Bytes} :
    encode config = .ok bytes ↔
      zeroKey? config = none ∧ (Flexbuffer.Tree.ofJson config).toBytes = bytes := by
  unfold encode
  cases zeroKey? config <;> simp

/-- The buffer of an ordered config without such a key is read as the config. -/
theorem decode_toBytes {config : Json} (hordered : config.Ordered) (hzero : zeroKey? config = none)
    (hsize : (Flexbuffer.Tree.ofJson config).toBytes.size < 0x8000000000000000)
    (hreach : (Flexbuffer.Tree.ofJson config).InReach) :
    decode (Flexbuffer.Tree.ofJson config).toBytes = .ok config := by
  rw [decode, Flexbuffer.Tree.toJson_toBytes (Flexbuffer.Tree.plain_ofJson config hzero) hreach
    hsize, Flexbuffer.Tree.value_ofJson config hordered]

/-- A light config has a payload of at most `2 ^ 32` bytes, in which every list reaches. -/
theorem decode_of_weight_le {config : Json} {bytes : Bytes} (hordered : config.Ordered)
    (hencode : encode config = .ok bytes) (hweight : config.weight ≤ 0x4000000) :
    decode bytes = .ok config := by
  obtain ⟨hzero, rfl⟩ := encode_eq_ok_iff.mp hencode
  have hsize := Flexbuffer.Tree.size_toBytes_ofJson_le config
  -- Forty-six bytes for each part of the config leave room below `2 ^ 32`.
  have hreach := @Flexbuffer.Tree.inReach_of_size (.ofJson config) (by omega)
  exact decode_toBytes hordered hzero (by omega) hreach

/-- A payload of at most `2 ^ 32` bytes is decoded to the config that it was made of. -/
theorem decode_of_encode {config : Json} {bytes : Bytes} (hordered : config.Ordered)
    (hencode : encode config = .ok bytes) (hsize : bytes.size ≤ 0x100000000) :
    decode bytes = .ok config := by
  obtain ⟨hzero, rfl⟩ := encode_eq_ok_iff.mp hencode
  exact decode_toBytes hordered hzero (by omega) (Flexbuffer.Tree.inReach_of_size hsize)

/-- A config with a text that holds a zero, numbers of all kinds, and lists within lists. -/
def mixedConfig : Json :=
  .object [
    ("a", .array [.integer ⟨-9223372036854775808, by decide⟩,
      .integer ⟨18446744073709551615, by decide⟩, .float ⟨⟨0x8000000000000000⟩, by decide⟩]),
    ("b", .object [("c", .string "\x00"), ("d", .array [.null, .bool true, .array []])])]

theorem mixedConfig_survives :
    ∃ bytes, encode mixedConfig = .ok bytes ∧ decode bytes = .ok mixedConfig := by
  have hordered : mixedConfig.Ordered := by
    have hab : "a" < "b" := by
      decide
    have hcd : "c" < "d" := by
      decide
    simp only [mixedConfig, Json.Ordered, Json.OrderedItems, Json.OrderedMembers, List.map_cons,
      List.map_nil, List.pairwise_cons, List.mem_singleton, forall_eq, List.not_mem_nil, hab, hcd,
      and_self, false_imp_iff, implies_true, List.Pairwise.nil]
  have hzero : zeroKey? mixedConfig = none := by
    simp [mixedConfig, zeroKey?, zeroKeyOfItems?, zeroKeyOfMembers?,
      holdsZero_eq_any]
  have hencode := encode_eq_ok_iff.mpr ⟨hzero, rfl⟩
  have hweight : mixedConfig.weight ≤ 100 := by
    decide
  have hsize := Flexbuffer.Tree.size_toBytes_ofJson_le mixedConfig
  exact ⟨_, hencode, decode_of_encode hordered hencode (by omega)⟩

/-- A list of one text that is too long for a slot of four bytes to refer to it. -/
def longConfig : Json := .array [.string Flexbuffer.limitText]

theorem encode_longConfig :
    encode longConfig = .ok (Flexbuffer.Tree.vector [.string Flexbuffer.limitText]).toBytes := by
  refine encode_eq_ok_iff.mpr ⟨?_, ?_⟩
  · simp only [longConfig, zeroKey?, zeroKeyOfItems?]
  · simp only [longConfig, Flexbuffer.Tree.ofJson, Flexbuffer.Tree.ofItems_cons]
    rfl

theorem decode_longPayload :
    decode (Flexbuffer.Tree.vector [.string Flexbuffer.limitText]).toBytes =
        .ok (.array [.string "\x00"]) ∧
      longConfig ≠ .array [.string "\x00"] := by
  refine ⟨Flexbuffer.toJson_toBytes_limit Flexbuffer.size_ofText_limitText, fun heq => ?_⟩
  simp only [longConfig, Json.array.injEq, List.cons.injEq, Json.string.injEq, and_true] at heq
  exact Flexbuffer.limitText_ne heq

/-- A payload of `2 ^ 32 + 12` bytes is decoded to another config than it was made of. -/
theorem longConfig_lost :
    longConfig.Ordered ∧ ∃ bytes, encode longConfig = .ok bytes ∧ bytes.size = 0x10000000c ∧
      ∃ other, decode bytes = .ok other ∧ longConfig ≠ other := by
  have hordered : longConfig.Ordered := by
    simp only [longConfig, Json.Ordered, Json.OrderedItems, and_self]
  exact ⟨hordered, _, encode_longConfig,
    Flexbuffer.size_toBytes_limit Flexbuffer.size_ofText_limitText, _, decode_longPayload⟩

end Payload

end JobDesk
