import JobDesk.Proofs.Flexbuffer.Slots

/-!
# Lists — lists written and read

A list stands behind its head, all slots in one width, the type bytes of its items after them.
`Writer.putList_spec` says where everything stands, and `Item.toJson_list` and `Item.toJson_map`
that a list and a map are read from what stands there.
-/

namespace JobDesk.Flexbuffer

open Bytes (Stands)

theorem slotPlace_add (start first second : Nat) (list : Width) :
    slotPlace start (first + second) list = slotPlace start first list + second * list.bytes := by
  unfold slotPlace
  rw [Nat.add_mul]
  omega

theorem slotPlace_le {first second : Nat} (start : Nat) (list : Width) (h : first ≤ second) :
    slotPlace start first list ≤ slotPlace start second list := by
  obtain ⟨more, rfl⟩ := Nat.exists_eq_add_of_le h
  rw [slotPlace_add]
  omega

/-! ## 1. Where slots and types stand -/

def SlotsStand (bytes : Bytes) (start : Nat) (list : Width) (slots : List Slot) : Prop :=
  ∀ (i : Nat) (slot : Slot), slots[i]? = some slot →
    Stands bytes (slotPlace start i list)
      (Bytes.ofWord list.bytes (slot.word list (slotPlace start i list)))

def TypesStand (bytes : Bytes) (address : Nat) (list : Width) (slots : List Slot) : Prop :=
  ∀ (i : Nat) (slot : Slot), slots[i]? = some slot →
    Stands bytes (address + i) [slot.kind.typeByte (slot.typeWidth list)]

theorem SlotsStand.mono {before after : Bytes} {start : Nat} {list : Width} {slots : List Slot}
    (hgrow : before.toList <+: after.toList) (h : SlotsStand before start list slots) :
    SlotsStand after start list slots :=
  fun i slot hslot => (h i slot hslot).mono hgrow

theorem TypesStand.mono {before after : Bytes} {address : Nat} {list : Width} {slots : List Slot}
    (hgrow : before.toList <+: after.toList) (h : TypesStand before address list slots) :
    TypesStand after address list slots :=
  fun i slot hslot => (h i slot hslot).mono hgrow

/-- Every slot of a list that starts at `start`, as wide as it is written, reaches its address. -/
def ListReaches (start : Nat) (slots : List Slot) : Prop :=
  ∀ (i : Nat) (slot : Slot), slots[i]? = some slot →
    slot.Reaches (Writer.listWidth start slots)
      (slotPlace start i (Writer.listWidth start slots))

namespace Writer

theorem foldl_width (start : Nat) (slots : List Slot) (width : Width) (index : Nat) :
    width.code ≤ (slots.foldl (fun (width, index) slot =>
        (width.max (slot.width start index), index + 1)) (width, index)).1.code ∧
      ∀ (i : Nat) (slot : Slot), slots[i]? = some slot →
        (slot.width start (index + i)).code ≤ (slots.foldl (fun (width, index) slot =>
          (width.max (slot.width start index), index + 1)) (width, index)).1.code := by
  -- The width so far only grows, so it is carried along with the bound on each later slot.
  induction slots generalizing width index with
  | nil => exact ⟨Nat.le_refl _, fun i slot h => by simp at h⟩
  | cons first rest ih =>
    obtain ⟨hwidth, hrest⟩ := ih (width.max (first.width start index)) (index + 1)
    refine ⟨Nat.le_trans (Width.code_le_max_left _ _) hwidth, fun i slot h => ?_⟩
    cases i with
    | zero =>
      obtain rfl : first = slot := by simpa using h
      exact Nat.le_trans (Width.code_le_max_right _ _) hwidth
    | succ i =>
      rw [show index + (i + 1) = index + 1 + i by omega]
      exact hrest i slot (by simpa using h)

theorem width_le_listWidth {start i : Nat} {slots : List Slot} {slot : Slot}
    (h : slots[i]? = some slot) :
    (slot.width start i).code ≤ (listWidth start slots).code := by
  have := (foldl_width start slots .w8 0).2 i slot h
  rwa [Nat.zero_add] at this

theorem putSlots_spec (list : Width) (slots : List Slot) (bytes : Bytes) :
    bytes.toList <+: (putSlots list slots bytes).toList ∧
      (putSlots list slots bytes).size = bytes.size + slots.length * list.bytes ∧
      ∀ (i : Nat) (slot : Slot), slots[i]? = some slot →
        Stands (putSlots list slots bytes) (bytes.size + i * list.bytes)
          (Bytes.ofWord list.bytes (slot.word list (bytes.size + i * list.bytes))) := by
  induction slots generalizing bytes with
  | nil => exact ⟨List.prefix_refl _, by simp [putSlots], fun i slot h => by simp at h⟩
  | cons first rest ih =>
    have hstep : putSlots list (first :: rest) bytes =
        putSlots list rest (bytes ++ Bytes.ofWord list.bytes (first.word list bytes.size)) := rfl
    obtain ⟨hgrow, hsize, hrest⟩ :=
      ih (bytes ++ Bytes.ofWord list.bytes (first.word list bytes.size))
    have hlen : (bytes ++ Bytes.ofWord list.bytes (first.word list bytes.size)).size =
        bytes.size + list.bytes := by
      rw [← Array.length_toList, Array.toList_appendList, List.length_append,
        Array.length_toList, Bytes.length_ofWord]
    -- The first slot moves the places of all others by its own width.
    rw [hlen] at hsize hrest
    rw [hstep]
    refine ⟨?_, ?_, fun i slot h => ?_⟩
    · refine List.IsPrefix.trans ?_ hgrow
      rw [Array.toList_appendList]
      exact List.prefix_append _ _
    · rw [hsize, List.length_cons, Nat.add_mul]
      omega
    · cases i with
      | zero =>
        obtain rfl : first = slot := by simpa using h
        rw [Nat.zero_mul, Nat.add_zero]
        exact (Bytes.stands_append bytes _).mono hgrow
      | succ i =>
        have hplace : bytes.size + (i + 1) * list.bytes =
            bytes.size + list.bytes + i * list.bytes := by
          rw [Nat.add_mul]
          omega
        rw [hplace]
        exact hrest i slot (by simpa using h)

theorem putTypes_spec (list : Width) (slots : List Slot) (bytes : Bytes) :
    bytes.toList <+: (putTypes list slots bytes).toList ∧
      TypesStand (putTypes list slots bytes) bytes.size list slots := by
  induction slots generalizing bytes with
  | nil => exact ⟨List.prefix_refl _, fun i slot h => by simp at h⟩
  | cons first rest ih =>
    have hstep : putTypes list (first :: rest) bytes =
        putTypes list rest (bytes.push (first.kind.typeByte (first.typeWidth list))) := rfl
    obtain ⟨hgrow, hrest⟩ := ih (bytes.push (first.kind.typeByte (first.typeWidth list)))
    rw [hstep]
    refine ⟨List.IsPrefix.trans ?_ hgrow, fun i slot h => ?_⟩
    · rw [Array.toList_push]
      exact List.prefix_append _ _
    · cases i with
      | zero =>
        obtain rfl : first = slot := by simpa using h
        have hpush : Stands (bytes.push (first.kind.typeByte (first.typeWidth list))) bytes.size
            [first.kind.typeByte (first.typeWidth list)] := by
          have := Bytes.stands_append bytes [first.kind.typeByte (first.typeWidth list)]
          simpa using this
        exact hpush.mono hgrow
      | succ i =>
        have := hrest i slot (by simpa using h)
        rw [Array.size_push] at this
        rwa [show bytes.size + (i + 1) = bytes.size + 1 + i by omega]

/-- A list as it was written, in slots of one width: its slots and its types stand in the buffer. -/
structure ListPut (w after : Writer) (head items : List Slot) (hasTypes : Bool) (list : Width) :
    Prop where
  width_eq : listWidth w.bytes.size (head ++ items) = list
  grow : w.bytes.toList <+: after.bytes.toList
  keys : after.keys = w.keys
  stop_le : slotPlace w.bytes.size (head.length + items.length) list ≤ after.bytes.size
  slots : SlotsStand after.bytes w.bytes.size list (head ++ items)
  types : hasTypes = true → TypesStand after.bytes
    (slotPlace w.bytes.size (head.length + items.length) list) list items

theorem putList_spec (w : Writer) (kind : Kind) (head items : List Slot) (hasTypes : Bool) :
    ∃ list, (w.putList kind head items hasTypes).1 =
        .reference kind list (slotPlace w.bytes.size head.length list) ∧
      ListPut w (w.putList kind head items hasTypes).2 head items hasTypes list := by
  -- Head and items are written one after the other, but in one width: they are one run of slots.
  obtain ⟨bytes, keys⟩ := w
  refine ⟨listWidth bytes.size (head ++ items), ?_⟩
  generalize hlist : listWidth bytes.size (head ++ items) = list
  have hboth : putSlots list items (putSlots list head (pad list bytes)) =
      putSlots list (head ++ items) (pad list bytes) := by
    simp only [putSlots, List.foldl_append]
  obtain ⟨hgrow, hsize, hslots⟩ := putSlots_spec list (head ++ items) (pad list bytes)
  have hheadSize := (putSlots_spec list head (pad list bytes)).2.1
  obtain ⟨htypesGrow, htypes⟩ :=
    putTypes_spec list items (putSlots list (head ++ items) (pad list bytes))
  have hplace : ∀ i, (pad list bytes).size + i * list.bytes = slotPlace bytes.size i list := by
    intro i
    rw [size_pad, ← slotPlace_add, Nat.zero_add]
  rw [hplace] at hsize hheadSize
  have hend : (putSlots list (head ++ items) (pad list bytes)).size =
      slotPlace bytes.size (head.length + items.length) list := by
    rw [hsize, List.length_append]
  have hstand : SlotsStand (putSlots list (head ++ items) (pad list bytes)) bytes.size list
      (head ++ items) := by
    intro i slot h
    have := hslots i slot h
    rwa [hplace] at this
  have hpadGrow : bytes.toList <+: (putSlots list (head ++ items) (pad list bytes)).toList :=
    (toList_pad list bytes).trans hgrow
  -- Types are put behind the slots, or nothing is.
  rw [hend] at htypes
  cases hasTypes with
  | true =>
    have hlen := List.IsPrefix.length_le htypesGrow
    simp only [Array.length_toList, hend] at hlen
    simp only [putList, hlist, hboth, if_true]
    exact ⟨by rw [hheadSize], {
      width_eq := hlist
      grow := hpadGrow.trans htypesGrow
      keys := rfl
      stop_le := hlen
      slots := hstand.mono htypesGrow
      types := fun _ => htypes }⟩
  | false =>
    simp only [putList, hlist, hboth, Bool.false_eq_true, if_false]
    exact ⟨by rw [hheadSize], {
      width_eq := hlist
      grow := hpadGrow
      keys := rfl
      stop_le := Nat.le_of_eq hend.symm
      slots := hstand
      types := fun h => absurd h (by decide) }⟩

theorem ListPut.fits {w after : Writer} {head items : List Slot} {hasTypes : Bool} {list : Width}
    (h : ListPut w after head items hasTypes list)
    (hvalid : ∀ slot ∈ head ++ items, slot.Valid w.bytes.size)
    (hreach : ListReaches w.bytes.size (head ++ items))
    (hsize : after.bytes.size < 0x8000000000000000) {i : Nat} {slot : Slot}
    (hslot : (head ++ items)[i]? = some slot) :
    slot.Fits list (slotPlace w.bytes.size i list) := by
  have hi : i < (head ++ items).length := (List.getElem?_eq_some_iff.mp hslot).1
  rw [List.length_append] at hi
  have hplace := slotPlace_le w.bytes.size list (Nat.le_of_lt hi)
  have hstop := h.stop_le
  have hwidth := @width_le_listWidth w.bytes.size i (head ++ items) slot hslot
  have hdistance := hreach i slot hslot
  rw [h.width_eq] at hwidth hdistance
  exact Slot.fits_of_width hwidth (hvalid slot (List.mem_of_getElem? hslot)) (by omega) hdistance

end Writer

end JobDesk.Flexbuffer
