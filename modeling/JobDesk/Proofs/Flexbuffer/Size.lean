import JobDesk.Proofs.Flexbuffer.RoundTrip

/-!
# Size — how long buffers get

`Tree.bulk` bounds what a tree adds to a buffer by what the tree holds, and `Tree.inReach_of_size`
says that no list can fall short of its addresses in a buffer of at most `2 ^ 32` bytes.
-/

namespace JobDesk.Flexbuffer

namespace Tree

/-! ## 1. A bound from the tree -/

mutual

def bulk : Tree → Nat
  | .string s => (Bytes.ofText s).size + 16
  | .blob content => content.size + 16
  | .vector items => bulkItems items + 15
  | .map members => bulkMembers members + 46
  | _ => 0

def bulkItems : List Tree → Nat
  | [] => 0
  | item :: rest => item.bulk + 9 + bulkItems rest

def bulkMembers : List (String × Tree) → Nat
  | [] => 0
  | (key, tree) :: rest => (Bytes.ofText key).size + 1 + tree.bulk + 18 + bulkMembers rest

end

end Tree

theorem Width.bytes_le (w : Width) : w.bytes ≤ 8 := by
  cases w <;> decide

theorem slotPlace_le_add (start index : Nat) (list : Width) :
    slotPlace start index list ≤ start + 7 + 8 * index := by
  have hpos := list.bytes_pos
  have hbytes := list.bytes_le
  have hslots := Nat.mul_le_mul_left index hbytes
  have hpad := Nat.mod_lt (list.bytes - start % list.bytes) hpos
  unfold slotPlace
  omega

namespace Writer

theorem size_putTypes (list : Width) (slots : List Slot) (bytes : Bytes) :
    (putTypes list slots bytes).size = bytes.size + slots.length := by
  induction slots generalizing bytes with
  | nil => rfl
  | cons first rest ih =>
    have hstep := ih (bytes.push (first.kind.typeByte (first.typeWidth list)))
    rw [Array.size_push] at hstep
    rw [List.length_cons]
    refine hstep.trans ?_
    omega

theorem size_putSized_le (w : Writer) (kind : Kind) (content : Bytes) (tail : List UInt8) :
    (w.putSized kind content tail).2.bytes.size ≤
      w.bytes.size + content.size + tail.length + 15 := by
  simp only [putSized]
  generalize Width.ofWord content.size = width
  have hbytes := width.bytes_le
  have hpad := slotPlace_le_add w.bytes.size 0 width
  rw [← size_pad] at hpad
  simp only [← Array.length_toList, Array.toList_appendList, Array.toList_append,
    List.length_append, Bytes.length_ofWord] at hpad ⊢
  omega

theorem size_putKey_le (w : Writer) (key : String) :
    (w.putKey key).2.bytes.size ≤ w.bytes.size + (Bytes.ofText key).size + 1 := by
  unfold putKey
  split
  · simp only []
    omega
  · simp only [Array.size_push, Array.size_append]
    omega

theorem size_putList_le (w : Writer) (kind : Kind) (head items : List Slot) (hasTypes : Bool) :
    (w.putList kind head items hasTypes).2.bytes.size ≤
      w.bytes.size + 8 * head.length + 9 * items.length + 7 := by
  obtain ⟨bytes, keys⟩ := w
  simp only [putList]
  generalize listWidth bytes.size (head ++ items) = list
  have hhead := (putSlots_spec list head (pad list bytes)).2.1
  have hitems := (putSlots_spec list items (putSlots list head (pad list bytes))).2.1
  -- Up to seven bytes of padding, eight for each slot, and one more for the type of an item.
  have hplace := slotPlace_le_add bytes.size (0 + head.length + items.length) list
  rw [slotPlace_add, slotPlace_add, ← size_pad] at hplace
  cases hasTypes with
  | true =>
    rw [if_pos rfl, size_putTypes]
    omega
  | false =>
    rw [if_neg (by decide)]
    omega

theorem size_putVector_le (w : Writer) (slots : List Slot) :
    (w.putVector slots).2.bytes.size ≤ w.bytes.size + 9 * slots.length + 15 := by
  have hput := fun kind head => size_putList_le w kind head slots
  unfold putVector
  split
  · split
    · exact (hput _ [] false).trans (by simp only [List.length_nil]; omega)
    · exact (hput _ [_] false).trans (by simp only [List.length_singleton]; omega)
  · exact (hput _ [_] false).trans (by simp only [List.length_singleton]; omega)
  · exact (hput _ [_] true).trans (by simp only [List.length_singleton]; omega)

theorem size_putKeys_le (w : Writer) (keys : List Slot) :
    (w.putKeys keys).2.bytes.size ≤ w.bytes.size + 9 * keys.length + 15 := by
  unfold putKeys
  split
  · refine (size_putVector_le w []).trans ?_
    simp only [List.length_nil]
    omega
  · refine (size_putList_le w .keys _ keys false).trans ?_
    simp only [List.length_singleton]
    omega

theorem size_putMap_le (w : Writer) (entries : List Entry) :
    (w.putMap entries).2.bytes.size ≤ w.bytes.size + 18 * entries.length + 46 := by
  simp only [putMap]
  have hsorted := (List.mergeSort_perm entries fun a b => !decide (b.name < a.name)).length_eq
  generalize (entries.mergeSort fun a b => !decide (b.name < a.name)) = sorted at hsorted ⊢
  have hkeys := size_putKeys_le w (sorted.map (·.key))
  refine (size_putList_le _ .map _ _ true).trans ?_
  simp only [List.length_cons, List.length_nil, List.length_map] at hkeys ⊢
  omega

theorem length_putItems (items : List Tree) (w : Writer) (slots : List Slot) :
    (putItems items w slots).1.length = slots.length + items.length := by
  induction items generalizing w slots with
  | nil => simp [putItems]
  | cons item rest ih =>
    simp only [putItems, ih, List.length_cons]
    omega

theorem length_putMembers (members : List (String × Tree)) (w : Writer) (entries : List Entry) :
    (putMembers members w entries).1.length = entries.length + members.length := by
  induction members generalizing w entries with
  | nil => simp [putMembers]
  | cons member rest ih =>
    obtain ⟨name, tree⟩ := member
    simp only [putMembers, ih, List.length_cons]
    omega

mutual

theorem size_put_le (tree : Tree) (w : Writer) :
    (put tree w).2.bytes.size ≤ w.bytes.size + tree.bulk := by
  cases tree with
  | null | bool | int | uint | float => exact Nat.le_refl _
  | string s => exact size_putSized_le w .string (Bytes.ofText s) [0]
  | blob content => exact (size_putSized_le w .blob content []).trans (by simp [Tree.bulk]; omega)
  | vector items =>
    have hitems := size_putItems_le items w []
    -- A list holds as many slots as there are items.
    have hvector := size_putVector_le (putItems items w []).2 (putItems items w []).1
    rw [length_putItems, List.length_nil] at hvector
    simp only [put, Tree.bulk]
    omega
  | map members =>
    have hmembers := size_putMembers_le members w []
    have hmap := size_putMap_le (putMembers members w []).2 (putMembers members w []).1
    rw [length_putMembers, List.length_nil] at hmap
    simp only [put, Tree.bulk]
    omega

theorem size_putItems_le (items : List Tree) (w : Writer) (slots : List Slot) :
    (putItems items w slots).2.bytes.size + 9 * items.length ≤
      w.bytes.size + Tree.bulkItems items := by
  cases items with
  | nil => exact Nat.le_refl _
  | cons item rest =>
    have hitem := size_put_le item w
    have hrest := size_putItems_le rest (put item w).2 ((put item w).1 :: slots)
    simp only [putItems, Tree.bulkItems, List.length_cons]
    omega

theorem size_putMembers_le (members : List (String × Tree)) (w : Writer)
    (entries : List Entry) :
    (putMembers members w entries).2.bytes.size + 18 * members.length ≤
      w.bytes.size + Tree.bulkMembers members := by
  cases members with
  | nil => exact Nat.le_refl _
  | cons member rest =>
    obtain ⟨name, tree⟩ := member
    have hkey := size_putKey_le w name
    have htree := size_put_le tree (w.putKey name).2
    have hrest := size_putMembers_le rest (put tree (w.putKey name).2).2
      (⟨name, (w.putKey name).1, (put tree (w.putKey name).2).1⟩ :: entries)
    simp only [putMembers, Tree.bulkMembers, List.length_cons]
    omega

end

end Writer

theorem Tree.size_toBytes_le (tree : Tree) : tree.toBytes.size ≤ tree.bulk + 17 := by
  have hput := Writer.size_put_le tree {}
  obtain ⟨bytes, -, hbytes, -, hfinish⟩ :=
    Writer.finish_eq (Writer.put tree {}).2 (Writer.put tree {}).1 rfl
  have hplace := slotPlace_le_add (Writer.put tree {}).2.bytes.size 0
    ((Writer.put tree {}).1.width (Writer.put tree {}).2.bytes.size 0)
  have hwidth := ((Writer.put tree {}).1.width (Writer.put tree {}).2.bytes.size 0).bytes_le
  simp only [Tree.toBytes, hfinish, Array.size_push]
  simp only [List.size_toArray, List.length_nil] at hput
  omega

/-! ## 2. Buffers of at most `2 ^ 32` bytes -/

def Slot.Proper : Slot → Prop
  | reference kind _ _ => kind.isInline = false
  | _ => True

namespace Writer

theorem put_proper (tree : Tree) (w : Writer) : (put tree w).1.Proper := by
  -- Only lists, texts and runs of bytes are referred to.
  have hlist : ∀ (w : Writer) (kind : Kind) (head items : List Slot) (hasTypes : Bool),
      kind.isInline = false → (w.putList kind head items hasTypes).1.Proper := by
    intro w kind head items hasTypes hkind
    obtain ⟨list, hslot, -⟩ := putList_spec w kind head items hasTypes
    rw [hslot]
    exact hkind
  cases tree with
  | null | bool | int | uint | float => trivial
  | string s => rfl
  | blob content => rfl
  | vector items =>
    simp only [put, putVector]
    split
    · split <;> exact hlist _ _ _ _ _ rfl
    · exact hlist _ _ _ _ _ rfl
    · exact hlist _ _ _ _ _ rfl
  | map members => exact hlist _ _ _ _ _ rfl

theorem putItems_proper (items : List Tree) (w : Writer) (slots : List Slot)
    (h : ∀ slot ∈ slots, slot.Proper) : ∀ slot ∈ (putItems items w slots).1, slot.Proper := by
  induction items generalizing w slots with
  | nil => simpa [putItems] using h
  | cons item rest ih =>
    refine ih (put item w).2 ((put item w).1 :: slots) fun slot hslot => ?_
    rcases List.mem_cons.mp hslot with rfl | hslot
    · exact put_proper item w
    · exact h slot hslot

theorem listReaches_of_size {w : Writer} {kind : Kind} {head items : List Slot} {hasTypes : Bool}
    (h : (w.putList kind head items hasTypes).2.bytes.size ≤ 0x100000000) :
    ListReaches w.bytes.size (head ++ items) := by
  obtain ⟨list, -, hput⟩ := putList_spec w kind head items hasTypes
  intro i slot hslot
  rw [hput.width_eq]
  have hi : i < (head ++ items).length := (List.getElem?_eq_some_iff.mp hslot).1
  rw [List.length_append] at hi
  have hplace : slotPlace w.bytes.size (i + 1) list ≤
      slotPlace w.bytes.size (head.length + items.length) list :=
    slotPlace_le w.bytes.size list hi
  -- The place of a slot lies before the end of its list, and the address is not negative.
  have hstop := hput.stop_le
  have hpos := list.bytes_pos
  rw [slotPlace_add, Nat.one_mul] at hplace
  cases slot with
  | reference kind child address =>
    intro hfour
    omega
  | _ => trivial

theorem vectorReaches_of_size {w : Writer} {slots : List Slot}
    (hproper : ∀ slot ∈ slots, slot.Proper)
    (h : (w.putVector slots).2.bytes.size ≤ 0x100000000) :
    ListReaches w.bytes.size (.uint slots.length :: slots) := by
  unfold putVector at h
  split at h
  · rename_i item huniform
    split at h
    · -- A list of numbers without a length: none of its slots is a reference.
      refine listReaches_of_isInline fun slot hslot kind child address heq => ?_
      rcases List.mem_cons.mp hslot with rfl | hslot
      · exact absurd heq nofun
      · have hkind := Slot.kind_of_uniform? huniform slot hslot
        have hslotProper := hproper slot hslot
        rw [heq] at hkind hslotProper
        have hinline : kind.isInline = true := by
          rw [show kind = _ from hkind]
          exact Slot.isInline_uniformKind (.numbers item)
        exact absurd (hslotProper.symm.trans hinline) (by decide)
    · exact listReaches_of_size h
  · exact listReaches_of_size h
  · exact listReaches_of_size h

theorem mapReaches_of_size {w : Writer} {entries : List Entry}
    (h : (w.putMap entries).2.bytes.size ≤ 0x100000000) : MapReaches w entries := by
  simp only [putMap] at h
  simp only [MapReaches]
  refine ⟨?_, listReaches_of_size h⟩
  have hkeys := Nat.le_trans (size_le_of_grow (putList_grow _ _ _ _ _)) h
  unfold putKeys at hkeys
  split at hkeys
  · rename_i hempty
    rw [List.isEmpty_iff.mp hempty]
    exact vectorReaches_of_size (by simp) hkeys
  · exact listReaches_of_size hkeys

end Writer

namespace Tree

open Writer (put putItems putMembers size_le_of_grow)

mutual

theorem reaches_of_size (tree : Tree) (w : Writer)
    (h : (put tree w).2.bytes.size ≤ 0x100000000) : tree.Reaches w := by
  cases tree with
  | vector items =>
    simp only [put] at h
    simp only [Reaches]
    have hitems := size_le_of_grow
      (Writer.putVector_grow (putItems items w []).2 (putItems items w []).1)
    exact ⟨itemsReach_of_size items w [] (by omega),
      Writer.vectorReaches_of_size (Writer.putItems_proper items w [] (by simp)) h⟩
  | map members =>
    simp only [put] at h
    simp only [Reaches]
    have hmembers := size_le_of_grow
      (Writer.putMap_grow (putMembers members w []).2 (putMembers members w []).1)
    exact ⟨membersReach_of_size members w [] (by omega), Writer.mapReaches_of_size h⟩
  | _ => trivial

theorem itemsReach_of_size (items : List Tree) (w : Writer) (slots : List Slot)
    (h : (putItems items w slots).2.bytes.size ≤ 0x100000000) : ItemsReach items w := by
  cases items with
  | nil => trivial
  | cons item rest =>
    simp only [putItems] at h
    have hrest := size_le_of_grow
      (Writer.putItems_grow rest (put item w).2 ((put item w).1 :: slots))
    exact ⟨reaches_of_size item w (by omega), itemsReach_of_size rest _ _ h⟩

theorem membersReach_of_size (members : List (String × Tree)) (w : Writer)
    (entries : List Writer.Entry)
    (h : (putMembers members w entries).2.bytes.size ≤ 0x100000000) : MembersReach members w := by
  cases members with
  | nil => trivial
  | cons member rest =>
    obtain ⟨name, tree⟩ := member
    simp only [putMembers] at h
    have hrest := size_le_of_grow (Writer.putMembers_grow rest (put tree (w.putKey name).2).2
      (⟨name, (w.putKey name).1, (put tree (w.putKey name).2).1⟩ :: entries))
    exact ⟨reaches_of_size tree _ (by omega), membersReach_of_size rest _ _ h⟩

end

/-- In a buffer of at most `2 ^ 32` bytes every list reaches its addresses. -/
theorem inReach_of_size {tree : Tree} (h : tree.toBytes.size ≤ 0x100000000) : tree.InReach := by
  simp only [toBytes] at h
  have hfinish := Writer.size_finish (put tree {}).2 (put tree {}).1
  obtain ⟨bytes, -, hbytes, -, heq⟩ := Writer.finish_eq (put tree {}).2 (put tree {}).1 rfl
  refine ⟨reaches_of_size tree {} (by omega), ?_⟩
  rw [heq, Array.size_push, Array.size_push, hbytes] at h
  generalize (put tree {}).1 = root at h ⊢
  cases root with
  | reference kind child address =>
    intro hfour
    omega
  | _ => trivial

end Tree

end JobDesk.Flexbuffer
