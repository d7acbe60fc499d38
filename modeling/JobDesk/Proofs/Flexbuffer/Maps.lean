import JobDesk.Proofs.Flexbuffer.Vectors
import JobDesk.Proofs.Json.Members

/-!
# Maps — objects written and read

A map is two lists, its keys and then its values, and three numbers in its head lead from the values
back to the keys.  `Writer.putMap_spec` says that the reference to a map whose members were written
stands for the object with those members.
-/

namespace JobDesk.Flexbuffer

open Bytes (Stands)

/-! ## 1. Reading objects -/

namespace Item

variable {final : Bytes}

theorem toJson_map {width : Width} {address depth : Nat} {keys : Keys}
    {members : List (String × Json)}
    (hkeys : Item.keys final ⟨.map, width, address⟩ = .ok keys)
    (hcount : Item.count final ⟨.map, width, address⟩ = members.length)
    (hmember : ∀ (i : Nat) (key : String) (value : Json), members[i]? = some (key, value) →
      keys.get? final i = some key ∧
        ∃ item, Item.get? final ⟨.map, width, address⟩ members.length i = some item ∧
          item.toJson final depth = .ok value) :
    toJson final (depth + 1) ⟨.map, width, address⟩ = .ok (Json.ofMembers members) := by
  simp only [toJson, hkeys, hcount, Except.mapError, bind, Except.bind]
  -- Keys and values are collected side by side; a key that cannot be found would be an error.
  rw [@collect_eq _ _ _ members]
  · rfl
  intro i member hi
  obtain ⟨key, value⟩ := member
  obtain ⟨hkey, item, hitem, hread⟩ := hmember i key value hi
  simp only [Nat.zero_add, hkey, hitem, hread]
  rfl

end Item

/-! ## 2. Writing keys -/

namespace Writer

/-- The keys of a map as they were written: each slot leads to its key. -/
structure KeysPut (w after : Writer) (keys : List Slot) (kind : Kind) (list : Width)
    (address : Nat) : Prop where
  grow : w.bytes.toList <+: after.bytes.toList
  table : after.keys = w.keys
  address_pos : 0 < address
  address_le : address ≤ after.bytes.size
  follow_eq : ∀ final : Bytes, after.bytes.toList <+: final.toList →
    ∀ (i : Nat) (kind : Kind) (child : Width) (key : Nat),
      keys[i]? = some (.reference kind child key) →
      Item.follow final (address + i * list.bytes) list = .ok key

theorem putKeys_spec {w : Writer} {keys : List Slot}
    (hvalid : ∀ slot ∈ keys, slot.Valid w.bytes.size)
    (hreach : ListReaches w.bytes.size (.uint keys.length :: keys))
    (hsize : (w.putKeys keys).2.bytes.size < 0x8000000000000000) :
    ∃ kind list address, (w.putKeys keys).1 = .reference kind list address ∧
      KeysPut w (w.putKeys keys).2 keys kind list address := by
  -- An empty map has an empty vector for its keys, any other a list of keys without types.
  have hput : ∀ kind hasTypes,
      (w.putList kind [.uint keys.length] keys hasTypes).2.bytes.size < 0x8000000000000000 →
      ∃ list address,
        (w.putList kind [.uint keys.length] keys hasTypes).1 = .reference kind list address ∧
        KeysPut w (w.putList kind [.uint keys.length] keys hasTypes).2 keys kind list
          address := by
    intro kind hasTypes hsize
    obtain ⟨list, hslot, h⟩ := putList_spec w kind [.uint keys.length] keys hasTypes
    have hlength := h.length_le
    have hstop := h.stop_le
    have hbehind : w.bytes.size < slotPlace w.bytes.size 1 list :=
      lt_slotPlace w.bytes.size list (by decide)
    have hvalid' : ∀ slot ∈ [Slot.uint keys.length] ++ keys, slot.Valid w.bytes.size := by
      intro slot hmem
      rcases List.mem_append.mp hmem with hmem | hmem
      · obtain rfl := List.mem_singleton.mp hmem
        exact (by omega : keys.length < 0x10000000000000000)
      · exact hvalid slot hmem
    refine ⟨list, _, hslot, h.grow, h.keys, Nat.lt_of_le_of_lt (Nat.zero_le _) hbehind, ?_, ?_⟩
    · exact Nat.le_trans
        (slotPlace_le w.bytes.size list (Nat.le_add_right _ keys.length)) hstop
    · intro final hfinal i kind child key hi
      have hboth : ([Slot.uint keys.length] ++ keys)[1 + i]? =
          some (.reference kind child key) := by
        rw [List.getElem?_append_right (by simp), List.length_singleton,
          Nat.add_sub_cancel_left, hi]
      have hfits := h.fits hvalid' hreach hsize hboth
      have hstand := (h.slots.mono hfinal) _ _ hboth
      rw [slotPlace_add] at hfits hstand
      exact Item.follow_eq hfits hstand
  cases keys with
  | nil =>
    obtain ⟨list, address, hslot, h⟩ := hput .vector true hsize
    exact ⟨_, _, _, hslot, h⟩
  | cons first rest =>
    obtain ⟨list, address, hslot, h⟩ := hput .keys false hsize
    exact ⟨_, _, _, hslot, h⟩

/-! ## 3. Writing objects -/

structure Entry.Means (bytes : Bytes) (entry : Entry) (member : String × Json) : Prop where
  name_eq : entry.name = member.1
  zero_notMem : '\x00' ∉ member.1.toList
  key : ∃ address, entry.key = .reference .key .w8 address ∧ KeyStands bytes address member.1
  value : entry.value.Means bytes member.2

theorem Entry.Means.mono {before after : Bytes} {entry : Entry} {member : String × Json}
    (hgrow : before.toList <+: after.toList) (h : entry.Means before member) :
    entry.Means after member where
  name_eq := h.name_eq
  zero_notMem := h.zero_notMem
  key := by
    obtain ⟨address, hslot, hkey⟩ := h.key
    exact ⟨address, hslot, hkey.mono hgrow⟩
  value := h.value.mono hgrow

theorem forall₂_mergeSort {bytes : Bytes} {entries : List Entry} {members : List (String × Json)}
    (h : List.Forall₂ (Entry.Means bytes) entries members) :
    List.Forall₂ (Entry.Means bytes) (entries.mergeSort fun a b => !decide (b.name < a.name))
      (members.mergeSort fun a b => !decide (b.1 < a.1)) := by
  have hlength := h.length_eq
  have hname : ∀ pair ∈ entries.zip members, pair.1.name = pair.2.1 :=
    fun pair hpair => (List.forall₂_zip h hpair).name_eq
  -- Both lists are sorted as the two halves of one list of pairs.
  have hentries : entries.mergeSort (fun a b => !decide (b.name < a.name)) =
      ((entries.zip members).mergeSort fun a b => !decide (b.1.name < a.1.name)).map (·.1) := by
    rw [List.map_mergeSort (s := fun (a b : Entry) => !decide (b.name < a.name))
      fun a _ b _ => rfl, List.map_fst_zip (by omega)]
  have hmembers : members.mergeSort (fun a b => !decide (b.1 < a.1)) =
      ((entries.zip members).mergeSort fun a b => !decide (b.1.name < a.1.name)).map (·.2) := by
    rw [List.map_mergeSort (s := fun (a b : String × Json) => !decide (b.1 < a.1))
      fun a ha b hb => by rw [hname a ha, hname b hb], List.map_snd_zip (by omega)]
  rw [hentries, hmembers, List.forall₂_map_left_iff, List.forall₂_map_right_iff,
    List.forall₂_same]
  exact fun pair hpair => List.forall₂_zip h (List.mem_mergeSort.mp hpair)

def MapReaches (w : Writer) (entries : List Entry) : Prop :=
  let entries := entries.mergeSort fun a b => !decide (b.name < a.name)
  let (keys, after) := w.putKeys (entries.map (·.key))
  ListReaches w.bytes.size (.uint (entries.map (·.key)).length :: entries.map (·.key)) ∧
    ListReaches after.bytes.size
      ([keys, .uint (slotBytes keys), .uint entries.length] ++ entries.map (·.value))

theorem ListPut.keys_eq {w after : Writer} {kind : Kind} {child list : Width}
    {address count : Nat} {values : List Slot} {final : Bytes}
    (h : ListPut w after [.reference kind child address, .uint child.bytes, .uint count] values
      true list)
    (hfits : ∀ (i : Nat) (slot : Slot),
      ([.reference kind child address, .uint child.bytes, .uint count] ++ values)[i]? =
        some slot → slot.Fits list (slotPlace w.bytes.size i list))
    (hpos : 0 < w.bytes.size) (hgrow : after.bytes.toList <+: final.toList) :
    Item.keys final ⟨.map, list, slotPlace w.bytes.size 3 list⟩ = .ok ⟨address, child⟩ := by
  have hfirst : Item.follow final (slotPlace w.bytes.size 0 list) list = .ok address :=
    Item.follow_eq (hfits 0 _ rfl) ((h.slots.mono hgrow) 0 _ rfl)
  have hsecond : Bytes.wordAt final (slotPlace w.bytes.size 1 list) list.bytes = child.bytes := by
    have hfit := hfits 1 _ rfl
    exact Bytes.wordAt_eq ((h.slots.mono hgrow) 1 _ rfl) list.bytes_pos
      (Width.lt_of_ofWord_le hfit.2 hfit.1)
  -- The reader goes back from the first value: three slots to the keys, two to their width.
  have hplace := slotPlace_add w.bytes.size 0 3 list
  have hplace' := slotPlace_add w.bytes.size 0 1 list
  have hstart := start_le_slotPlace w.bytes.size 0 list
  simp only [Nat.zero_add] at hplace hplace'
  simp only [Item.keys]
  rw [if_neg (by omega),
    show slotPlace w.bytes.size 3 list - 2 * list.bytes = slotPlace w.bytes.size 1 list by omega,
    show slotPlace w.bytes.size 3 list - 3 * list.bytes = slotPlace w.bytes.size 0 list by omega,
    hsecond, Width.ofBytes?_bytes, hfirst]
  rfl

/-- The reference to the values of a map stands for the object with its members, when the map's
keys are found. -/
theorem ListPut.object {w after : Writer} {kind : Kind} {child list : Width} {address : Nat}
    {entries : List Entry} {members : List (String × Json)}
    (h : ListPut w after [.reference kind child address, .uint child.bytes, .uint entries.length]
      (entries.map (·.value)) true list)
    (hmeans : List.Forall₂ (Entry.Means w.bytes) entries members)
    (hpos : 0 < w.bytes.size) (haddress : address ≤ w.bytes.size)
    (hfollow : ∀ final : Bytes, w.bytes.toList <+: final.toList →
      ∀ (i : Nat) (entry : Entry) (key : Nat), entries[i]? = some entry →
        entry.key = .reference .key .w8 key →
        Item.follow final (address + i * child.bytes) child = .ok key)
    (hreach : ListReaches w.bytes.size
      ([.reference kind child address, .uint child.bytes, .uint entries.length] ++
        entries.map (·.value)))
    (hsize : after.bytes.size < 0x8000000000000000) :
    (Slot.reference .map list (slotPlace w.bytes.size 3 list)).Means after.bytes
      (Json.ofMembers members) := by
  have hlength := hmeans.length_eq
  have hentry : ∀ (i : Nat) (hi : i < entries.length), entries[i].Means w.bytes members[i] :=
    fun i hi => hmeans.get hi (hlength ▸ hi)
  have hcount := h.length_le
  rw [List.length_map] at hcount
  -- The head counts as slots of the list, so it has to be valid too.
  have hvalid : ∀ slot ∈ [.reference kind child address, .uint child.bytes,
      .uint entries.length] ++ entries.map (·.value), slot.Valid w.bytes.size := by
    intro slot hslot
    simp only [List.mem_append, List.mem_cons, List.not_mem_nil, or_false, List.mem_map] at hslot
    rcases hslot with (rfl | rfl | rfl) | ⟨entry, hmem, rfl⟩
    · exact haddress
    · exact (by cases child <;> decide : child.bytes < 0x10000000000000000)
    · exact (by omega : entries.length < 0x10000000000000000)
    · obtain ⟨i, hi, rfl⟩ := List.getElem_of_mem hmem
      exact (hentry i hi).value.valid
  have hfits : ∀ (i : Nat) (slot : Slot), ([.reference kind child address, .uint child.bytes,
      .uint entries.length] ++ entries.map (·.value))[i]? = some slot →
      slot.Fits list (slotPlace w.bytes.size i list) :=
    fun i slot => h.fits hvalid hreach hsize
  have hbehind : w.bytes.size < slotPlace w.bytes.size 3 list :=
    lt_slotPlace w.bytes.size list (by decide)
  have hend := slotPlace_le w.bytes.size list (Nat.le_add_right 3 entries.length)
  have hstop := h.stop_le
  rw [List.length_map] at hstop
  refine ⟨rfl, nofun, Nat.le_trans hend hstop, fun final hfinal depth hlarge => ?_⟩
  obtain ⟨depth, rfl⟩ := Nat.exists_eq_add_of_le' (Nat.le_trans (Nat.le_add_left 1 _) hlarge)
  -- Member `i` is read from slot `i` of the keys and slot `i` of the values.
  refine Item.toJson_map (h.keys_eq hfits hpos hfinal) ?_ fun i key value hi => ?_
  · rw [← hlength]
    exact @ListPut.length_eq w after .map _ true list
      [.reference kind child address, .uint child.bytes] entries.length final h (hfits 2 _ rfl)
      hfinal
  obtain ⟨hbound, hmember⟩ := List.getElem?_eq_some_iff.mp hi
  rw [← hlength] at hbound
  have hmean := hentry i hbound
  rw [hmember] at hmean
  have hvalue : (entries.map (·.value))[i]? = some entries[i].value := by
    rw [List.getElem?_map, List.getElem?_eq_getElem hbound, Option.map_some]
  constructor
  · obtain ⟨keyAddress, hkey, hstands⟩ := hmean.key
    have hplace := hfollow final (h.grow.trans hfinal) i _ keyAddress
      (List.getElem?_eq_getElem hbound) hkey
    have htext := Item.keyText_eq hmean.zero_notMem (hstands.mono (h.grow.trans hfinal))
    simp only [Item.Keys.get?, hplace, htext]
  · have htypes := (h.types rfl).mono hfinal
    obtain ⟨item, hitem, hread⟩ := @ListPut.get?_eq w after .map _ _ true list final i _ _ h
      hvalid hreach hsize hfinal (fun _ => htypes.ofTypeByte? hvalue) hvalue hmean.value
    rw [List.length_map, hlength] at hitem
    have hdepth := hmean.value.valid.depth_le
    exact ⟨item, hitem, hread depth (by omega)⟩

theorem putMap_spec {w : Writer} {entries : List Entry} {members : List (String × Json)}
    (hsound : w.Sound) (hmeans : List.Forall₂ (Entry.Means w.bytes) entries members)
    (hreach : MapReaches w entries)
    (hsize : (w.putMap entries).2.bytes.size < 0x8000000000000000) :
    Puts w (w.putMap entries).2 (w.putMap entries).1 (Json.ofMembers members) := by
  have hsorted := forall₂_mergeSort hmeans
  have hvalue : Json.ofMembers members =
      Json.ofMembers (members.mergeSort fun a b => !decide (b.1 < a.1)) := by
    rw [Json.ofMembers, Json.ofMembers, Json.sortMembers_mergeSort]
  rw [hvalue]
  simp only [putMap] at hsize ⊢
  simp only [MapReaches] at hreach
  -- From here on the order of the entries does not matter any more, only that both have it.
  generalize (entries.mergeSort fun a b => !decide (b.name < a.name)) = entries at *
  generalize (members.mergeSort fun a b => !decide (b.1 < a.1)) = members at *
  -- The keys were written before, with the members, so their addresses lie in the buffer.
  have hkeyValid : ∀ slot ∈ entries.map (·.key), slot.Valid w.bytes.size := by
    intro slot hslot
    obtain ⟨entry, hmem, rfl⟩ := List.mem_map.mp hslot
    obtain ⟨i, hi, rfl⟩ := List.getElem_of_mem hmem
    obtain ⟨address, hkey, hstand⟩ := (hsorted.get hi (hsorted.length_eq ▸ hi)).key
    rw [List.get_eq_getElem] at hkey
    rw [hkey]
    exact Nat.le_of_lt hstand.address_lt
  have hspec := putKeys_spec hkeyValid hreach.1
  generalize w.putKeys (entries.map (·.key)) = put at *
  obtain ⟨keys, mid⟩ := put
  simp only at hsize hreach hspec ⊢
  obtain ⟨list, hslot, hput⟩ := putList_spec mid .map
    [keys, .uint (slotBytes keys), .uint entries.length] (entries.map (·.value)) true
  have hmidSize := List.IsPrefix.length_le hput.grow
  simp only [Array.length_toList] at hmidSize
  obtain ⟨kind, child, address, rfl, hkeys⟩ := hspec (by omega)
  have hmid : mid.Sound := by
    have := hsound.grow hkeys.grow
    rwa [← hkeys.table] at this
  refine ⟨hkeys.grow.trans hput.grow, hput.sound hmid, ?_⟩
  rw [hslot]
  have hpos : 0 < mid.bytes.size := Nat.lt_of_lt_of_le hkeys.address_pos hkeys.address_le
  refine hput.object (hsorted.imp fun entry member h => h.mono hkeys.grow) hpos
    hkeys.address_le (fun final hfinal i entry key hi hkey => ?_) hreach.2 hsize
  refine hkeys.follow_eq final hfinal i .key .w8 key ?_
  rw [List.getElem?_map, hi, Option.map_some, hkey]

end Writer

end JobDesk.Flexbuffer
