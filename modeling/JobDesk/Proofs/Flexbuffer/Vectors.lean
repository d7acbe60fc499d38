import JobDesk.Proofs.Flexbuffer.Lists
import Mathlib.Data.List.Forall2

/-!
# Vectors — arrays written and read

`Writer.putVector_spec` says that the reference to a list whose items were written stands for the
array of what the items stand for, whichever of the kinds of lists the writer has chosen.
-/

namespace JobDesk.Flexbuffer

open Bytes (Stands)

namespace Kind

@[simp] theorem ofTypeByte?_typeByte (k : Kind) (w : Width) :
    ofTypeByte? (k.typeByte w) = some (k, w) := by
  -- The type byte has the kind above its two lowest bits and the width in them.
  have hcode : k.code ≤ 36 := by
    cases k with
    | number item | indirect item | numbers item => cases item <;> decide
    | fixed length item => cases length <;> cases item <;> decide
    | _ => decide
  have hwidth : w.code < 4 := by cases w <;> decide
  have hbyte : (k.typeByte w).toNat = 4 * k.code + w.code :=
    UInt8.toNat_ofNat_of_lt' (show _ < 256 by omega)
  have hmod : Width.ofCode (4 * k.code + w.code) = w := by
    cases w <;> simp [Width.ofCode, Width.code]
  rw [ofTypeByte?, hbyte, show (4 * k.code + w.code) / 4 = k.code by omega, ofCode?_code, hmod,
    Option.map_some]

def IsArray (k : Kind) : Prop :=
  k = vector ∨ (∃ item, k = numbers item) ∨ (∃ length item, k = fixed length item) ∨ k = bools

end Kind

/-! ## 1. Reading arrays -/

theorem collect_eq {ε α : Type} {step : Nat → Except ε α} {values found : List α} {index : Nat}
    (h : ∀ (i : Nat) (value : α), values[i]? = some value → step (index + i) = .ok value) :
    collect step values.length index found = .ok (found.reverse ++ values) := by
  -- By induction on the values that are still to come; `found` holds those before, the last first.
  induction values generalizing index found with
  | nil => simp [collect]
  | cons first rest ih =>
    have hfirst : step index = .ok first := h 0 first rfl
    rw [List.length_cons, collect, hfirst]
    simp only []
    rw [ih fun i value hvalue => by
      rw [show index + 1 + i = index + (i + 1) by omega]
      exact h (i + 1) value (by simpa using hvalue)]
    simp

namespace Item

variable {final : Bytes}

theorem get?_eq {before : Bytes} {list : Item} {count i : Nat} {slot : Slot} {value : Json}
    (htype : list.typeOf? final count i = some (slot.kind, slot.typeWidth list.width))
    (hgrow : before.toList <+: final.toList) (hmeans : slot.Means before value)
    (hfits : slot.Fits list.width (list.address + i * list.width.bytes))
    (h : Stands final (list.address + i * list.width.bytes)
      (Bytes.ofWord list.width.bytes
        (slot.word list.width (list.address + i * list.width.bytes)))) :
    ∃ item, list.get? final count i = some item ∧
      ∀ depth, slot.depth ≤ depth → item.toJson final depth = .ok value := by
  obtain ⟨item, hitem, hread⟩ := ofSlot_eq hgrow hmeans hfits h
  refine ⟨item, ?_, hread⟩
  simp only [get?, htype, bind, Option.bind, hitem]
  rfl

theorem toJson_list {list : Item} (hkind : list.kind.IsArray) {values : List Json} {depth : Nat}
    (hcount : list.count final = values.length)
    (hget : ∀ (i : Nat) (value : Json), values[i]? = some value →
      ∃ item, list.get? final values.length i = some item ∧
        item.toJson final depth = .ok value) :
    list.toJson final (depth + 1) = .ok (.array values) := by
  obtain ⟨kind, width, address⟩ := list
  -- The four kinds of arrays are read by the same steps.
  rcases hkind with h | ⟨item, h⟩ | ⟨length, item, h⟩ | h
  all_goals
    simp only at h
    subst h
    simp only [toJson, hcount]
    rw [@collect_eq _ _ _ values]
    · rfl
    intro i value hvalue
    obtain ⟨item, hitem, hread⟩ := hget i value hvalue
    simp only [Nat.zero_add, hitem, hread]

end Item

theorem TypesStand.ofTypeByte? {final : Bytes} {start front i : Nat} {items : List Slot}
    {list : Width} {slot : Slot}
    (h : TypesStand final (slotPlace start (front + items.length) list) list items)
    (hslot : items[i]? = some slot) :
    final[slotPlace start front list + items.length * list.bytes + i]?.bind
      Kind.ofTypeByte? = some (slot.kind, slot.typeWidth list) := by
  have hbyte := (h i slot hslot).getElem? (i := 0) (by simp)
  rw [slotPlace_add, Nat.add_zero] at hbyte
  rw [hbyte]
  simp

/-! ## 2. Lists of one kind -/

theorem FixedLength.count_of_ofCount? {n : Nat} {length : FixedLength}
    (h : FixedLength.ofCount? n = some length) : length.count = n := by
  unfold FixedLength.ofCount? at h
  split at h <;> cases h <;> rfl

namespace Slot

def uniformKind : UniformKind → Kind
  | .numbers item => .number item
  | .bools => .bool

theorem kind_of_uniform? {slots : List Slot} {kind : UniformKind}
    (h : uniform? slots = some kind) : ∀ slot ∈ slots, slot.kind = uniformKind kind := by
  cases slots with
  | nil => simp [uniform?] at h
  | cons first rest =>
    simp only [uniform?] at h
    split at h
    · rename_i hall
      -- The first slot sets the kind, and the others were compared with it.
      have hfirst : first.kind = uniformKind kind := by
        cases first with
        | null | reference => simp at h
        | _ => simp only [Option.some.injEq] at h; subst h; rfl
      intro slot hslot
      rcases List.mem_cons.mp hslot with rfl | hslot
      · exact hfirst
      · exact (eq_of_beq (List.all_eq_true.mp hall slot hslot)).trans hfirst
    · simp at h

theorem isInline_uniformKind (kind : UniformKind) : (uniformKind kind).isInline = true := by
  cases kind <;> rfl

theorem Valid.depth_le {size : Nat} {slot : Slot} (h : slot.Valid size) :
    slot.depth ≤ size + 2 := by
  cases slot with
  | reference kind child address =>
    have haddress : address ≤ size := h
    simp only [depth]
    omega
  | _ => simp [depth]

theorem depth_of_isInline {bytes : Bytes} {value : Json} {slot : Slot}
    (hmeans : slot.Means bytes value) (hinline : slot.kind.isInline = true) : slot.depth = 1 := by
  cases slot with
  | reference kind child address => exact absurd (hmeans.1.symm.trans hinline) (by decide)
  | _ => rfl

end Slot

/-! ## 3. Writing arrays -/

namespace Writer

/-- A value was written: the buffer has grown, the table of keys is still true, and the slot stands
for the value. -/
structure Puts (w after : Writer) (slot : Slot) (value : Json) : Prop where
  grow : w.bytes.toList <+: after.bytes.toList
  sound : after.Sound
  means : slot.Means after.bytes value

variable {w after : Writer} {kind : Kind} {head items : List Slot} {hasTypes : Bool} {list : Width}

theorem ListPut.sound (h : ListPut w after head items hasTypes list) (hsound : w.Sound) :
    after.Sound := by
  have := hsound.grow h.grow
  rwa [← h.keys] at this

theorem ListPut.length_eq {front : List Slot} {n : Nat} {final : Bytes}
    (h : ListPut w after (front ++ [.uint n]) items hasTypes list)
    (hfits : (Slot.uint n).Fits list (slotPlace w.bytes.size front.length list))
    (hgrow : after.bytes.toList <+: final.toList) :
    Item.length final ⟨kind, list,
      slotPlace w.bytes.size (front ++ [Slot.uint n]).length list⟩ = n := by
  have hstand := (h.slots.mono hgrow) front.length (.uint n) (by simp)
  have hplace : slotPlace w.bytes.size (front ++ [Slot.uint n]).length list =
      slotPlace w.bytes.size front.length list + list.bytes := by
    rw [List.length_append, List.length_singleton, slotPlace_add, Nat.one_mul]
  rw [Item.length, hplace]
  simp only []
  rw [if_neg (by omega), Nat.add_sub_cancel]
  exact Bytes.wordAt_eq hstand list.bytes_pos (Width.lt_of_ofWord_le hfits.2 hfits.1)

/-- Item `i` of a list that was written is found by the reader, when it finds the types. -/
theorem ListPut.get?_eq {final : Bytes} {i : Nat} {slot : Slot} {value : Json}
    (h : ListPut w after head items hasTypes list)
    (hvalid : ∀ slot ∈ head ++ items, slot.Valid w.bytes.size)
    (hreach : ListReaches w.bytes.size (head ++ items))
    (hsize : after.bytes.size < 0x8000000000000000)
    (hgrow : after.bytes.toList <+: final.toList)
    (htype : (slot.kind.isInline = true → slot.typeWidth list = list) →
      Item.typeOf? final ⟨kind, list, slotPlace w.bytes.size head.length list⟩ items.length i
        = some (slot.kind, slot.typeWidth list))
    (hslot : items[i]? = some slot) (hmeans : slot.Means w.bytes value) :
    ∃ item, Item.get? final ⟨kind, list, slotPlace w.bytes.size head.length list⟩ items.length i
        = some item ∧
      ∀ depth, slot.depth ≤ depth → item.toJson final depth = .ok value := by
  -- Item `i` stands behind the head, so it is slot `head.length + i` of the whole list.
  have hboth : (head ++ items)[head.length + i]? = some slot := by
    rw [List.getElem?_append_right (by omega), Nat.add_sub_cancel_left, hslot]
  have hfit := h.fits hvalid hreach hsize hboth
  have hstand := (h.slots.mono hgrow) _ _ hboth
  rw [slotPlace_add] at hfit hstand
  exact @Item.get?_eq final w.bytes ⟨kind, list, slotPlace w.bytes.size head.length list⟩
    items.length i slot value (htype (Slot.typeWidth_eq hmeans hfit)) (h.grow.trans hgrow)
    hmeans hfit hstand

/-- The reference to a list stands for the array of what its items stand for, when the reader finds
their number and their types. -/
theorem ListPut.array {values : List Json}
    (h : ListPut w after head items hasTypes list) (hkind : kind.IsArray)
    (hmeans : List.Forall₂ (fun slot value => slot.Means w.bytes value) items values)
    (hhead : ∀ slot ∈ head, slot.Valid w.bytes.size)
    (hreach : ListReaches w.bytes.size (head ++ items))
    (hsize : after.bytes.size < 0x8000000000000000)
    (hcount : ∀ final : Bytes, after.bytes.toList <+: final.toList →
      Item.count final ⟨kind, list, slotPlace w.bytes.size head.length list⟩ = items.length)
    (htype : ∀ final : Bytes, after.bytes.toList <+: final.toList →
      ∀ (i : Nat) (slot : Slot), items[i]? = some slot →
        (slot.kind.isInline = true → slot.typeWidth list = list) →
        Item.typeOf? final ⟨kind, list, slotPlace w.bytes.size head.length list⟩ items.length i
          = some (slot.kind, slot.typeWidth list))
    (hdepth : ∀ slot ∈ items, slot.depth ≤ slotPlace w.bytes.size head.length list + 1) :
    (Slot.reference kind list (slotPlace w.bytes.size head.length list)).Means after.bytes
      (.array values) := by
  have hlength := hmeans.length_eq
  have hmean : ∀ (i : Nat) (hi : i < items.length), items[i].Means w.bytes values[i] :=
    fun i hi => hmeans.get hi (hlength ▸ hi)
  have hvalid : ∀ slot ∈ head ++ items, slot.Valid w.bytes.size := by
    intro slot hslot
    rcases List.mem_append.mp hslot with hslot | hslot
    · exact hhead slot hslot
    · obtain ⟨i, hi, rfl⟩ := List.getElem_of_mem hslot
      exact (hmean i hi).valid
  have hinline : kind.isInline = false := by
    rcases hkind with rfl | ⟨_, rfl⟩ | ⟨_, _, rfl⟩ | rfl <;> rfl
  have hindirect : ∀ item, kind ≠ .indirect item := by
    intro item
    rcases hkind with rfl | ⟨_, rfl⟩ | ⟨_, _, rfl⟩ | rfl <;> exact nofun
  have haddress := slotPlace_le w.bytes.size list (Nat.le_add_right head.length items.length)
  have hstop := h.stop_le
  -- The array takes one level of the nesting, and its items stand at lower addresses.
  refine ⟨hinline, hindirect, by omega, fun final hfinal depth hlarge => ?_⟩
  obtain ⟨depth, rfl⟩ := Nat.exists_eq_add_of_le' (Nat.le_trans (Nat.le_add_left 1 _) hlarge)
  refine Item.toJson_list hkind (by rw [hcount final hfinal, hlength]) fun i value hvalue => ?_
  obtain ⟨hi, rfl⟩ := List.getElem?_eq_some_iff.mp hvalue
  rw [← hlength] at hi ⊢
  have hslot : items[i]? = some items[i] := List.getElem?_eq_getElem hi
  obtain ⟨item, hitem, hread⟩ := h.get?_eq hvalid hreach hsize hfinal
    (htype final hfinal i _ hslot) hslot (hmean i hi)
  refine ⟨item, hitem, hread depth ?_⟩
  have := hdepth _ (List.getElem_mem hi)
  omega

theorem ListPut.length_le (h : ListPut w after head items hasTypes list) :
    items.length ≤ after.bytes.size := by
  have hstop := h.stop_le
  have hpos := Nat.mul_le_mul_left items.length list.bytes_pos
  rw [slotPlace_add] at hstop
  omega

/-- The address of a list with a head lies behind everything that was written before it. -/
theorem lt_slotPlace (start : Nat) {index : Nat} (list : Width) (h : 0 < index) :
    start < slotPlace start index list := by
  have hpos := list.bytes_pos
  have hone : slotPlace start (0 + 1) list ≤ slotPlace start index list :=
    slotPlace_le start list h
  have hfirst := start_le_slotPlace start 0 list
  rw [slotPlace_add] at hone
  omega

theorem ListPut.counted {values : List Json}
    (h : ListPut w after [.uint items.length] items hasTypes list) (hkind : kind.IsArray)
    (hcount : ∀ (final : Bytes) (address : Nat),
      Item.count final ⟨kind, list, address⟩ = Item.length final ⟨kind, list, address⟩)
    (hmeans : List.Forall₂ (fun slot value => slot.Means w.bytes value) items values)
    (hreach : ListReaches w.bytes.size (.uint items.length :: items))
    (hsize : after.bytes.size < 0x8000000000000000)
    (htype : ∀ final : Bytes, after.bytes.toList <+: final.toList →
      ∀ (i : Nat) (slot : Slot), items[i]? = some slot →
        (slot.kind.isInline = true → slot.typeWidth list = list) →
        Item.typeOf? final ⟨kind, list, slotPlace w.bytes.size 1 list⟩ items.length i
          = some (slot.kind, slot.typeWidth list)) :
    (Slot.reference kind list (slotPlace w.bytes.size 1 list)).Means after.bytes
      (.array values) := by
  have hlength := h.length_le
  have hhead : ∀ slot ∈ [Slot.uint items.length], slot.Valid w.bytes.size := by
    intro slot hslot
    obtain rfl := List.mem_singleton.mp hslot
    exact (by omega : items.length < 0x10000000000000000)
  have hvalid : ∀ slot ∈ [Slot.uint items.length] ++ items, slot.Valid w.bytes.size := by
    intro slot hslot
    rcases List.mem_append.mp hslot with hslot | hslot
    · exact hhead slot hslot
    · obtain ⟨i, hi, rfl⟩ := List.getElem_of_mem hslot
      exact (hmeans.get hi (hmeans.length_eq ▸ hi)).valid
  refine h.array hkind hmeans hhead hreach hsize (fun final hfinal => ?_) htype fun slot hslot => ?_
  · rw [hcount]
    exact @ListPut.length_eq w after kind items hasTypes list [] items.length final h
      (h.fits hvalid hreach hsize (i := 0) rfl) hfinal
  · have hdepth := (hvalid slot (List.mem_append_right _ hslot)).depth_le
    have hbehind : w.bytes.size < slotPlace w.bytes.size 1 list :=
      lt_slotPlace w.bytes.size list (by decide)
    change slot.depth ≤ slotPlace w.bytes.size 1 list + 1
    omega

theorem listReaches_of_isInline {start : Nat} {slots : List Slot}
    (h : ∀ slot ∈ slots, ∀ kind child address, slot ≠ .reference kind child address) :
    ListReaches start slots := by
  intro i slot hslot
  have hnone := h slot (List.mem_of_getElem? hslot)
  cases slot with
  | reference kind child address => exact absurd rfl (hnone kind child address)
  | _ => trivial

theorem putVector_spec {slots : List Slot} {values : List Json} (hsound : w.Sound)
    (hmeans : List.Forall₂ (fun slot value => slot.Means w.bytes value) slots values)
    (hreach : ListReaches w.bytes.size (.uint slots.length :: slots))
    (hsize : (w.putVector slots).2.bytes.size < 0x8000000000000000) :
    Puts w (w.putVector slots).2 (w.putVector slots).1 (.array values) := by
  have hmean : ∀ (i : Nat) (slot : Slot), slots[i]? = some slot →
      ∃ value, slot.Means w.bytes value := by
    intro i slot hslot
    obtain ⟨hi, rfl⟩ := List.getElem?_eq_some_iff.mp hslot
    exact ⟨_, hmeans.get hi (hmeans.length_eq ▸ hi)⟩
  cases huniform : Slot.uniform? slots with
  | none =>
    simp only [putVector, huniform] at hsize ⊢
    obtain ⟨list, hslot, hput⟩ := putList_spec w .vector [.uint slots.length] slots true
    refine ⟨hput.grow, hput.sound hsound, ?_⟩
    rw [hslot]
    exact hput.counted (.inl rfl) (fun _ _ => rfl) hmeans hreach hsize
      fun final hfinal i slot hi _ => ((hput.types rfl).mono hfinal).ofTypeByte? hi
  | some kind =>
    -- Without type bytes the reader gives each item the kind of the list and the width of the list.
    have hkinds := Slot.kind_of_uniform? huniform
    have hinlines : ∀ (i : Nat) (slot : Slot), slots[i]? = some slot →
        slot.kind.isInline = true := fun i slot hi => by
      rw [hkinds slot (List.mem_of_getElem? hi)]
      exact Slot.isInline_uniformKind kind
    cases kind with
    | bools =>
      simp only [putVector, huniform] at hsize ⊢
      obtain ⟨list, hslot, hput⟩ := putList_spec w .bools [.uint slots.length] slots false
      refine ⟨hput.grow, hput.sound hsound, ?_⟩
      rw [hslot]
      refine hput.counted (.inr (.inr (.inr rfl))) (fun _ _ => rfl) hmeans hreach hsize
        fun final hfinal i slot hi hwidth => ?_
      rw [hwidth (hinlines i slot hi), hkinds slot (List.mem_of_getElem? hi)]
      rfl
    | numbers item =>
      cases hcount : FixedLength.ofCount? slots.length with
      | none =>
        simp only [putVector, huniform, hcount] at hsize ⊢
        obtain ⟨list, hslot, hput⟩ :=
          putList_spec w (.numbers item) [.uint slots.length] slots false
        refine ⟨hput.grow, hput.sound hsound, ?_⟩
        rw [hslot]
        refine hput.counted (.inr (.inl ⟨item, rfl⟩)) (fun _ _ => rfl) hmeans hreach hsize
          fun final hfinal i slot hi hwidth => ?_
        rw [hwidth (hinlines i slot hi), hkinds slot (List.mem_of_getElem? hi)]
        rfl
      | some length =>
        simp only [putVector, huniform, hcount] at hsize ⊢
        obtain ⟨list, hslot, hput⟩ := putList_spec w (.fixed length item) [] slots false
        refine ⟨hput.grow, hput.sound hsound, ?_⟩
        rw [hslot]
        -- No slot of such a list is a reference, so nothing has to reach an address.
        have hlocal : ListReaches w.bytes.size ([] ++ slots) := by
          refine listReaches_of_isInline fun slot hslot kind child address heq => ?_
          obtain ⟨i, hi, rfl⟩ := List.getElem_of_mem hslot
          obtain ⟨value, hvalue⟩ := hmean i _ (List.getElem?_eq_getElem hi)
          have hinline := hinlines i _ (List.getElem?_eq_getElem hi)
          rw [heq] at hvalue hinline
          exact absurd (hvalue.1.symm.trans hinline) (by decide)
        refine hput.array (.inr (.inr (.inl ⟨length, item, rfl⟩))) hmeans (by simp) hlocal hsize
          (fun final hfinal => FixedLength.count_of_ofCount? hcount)
          (fun final hfinal i slot hi hwidth => ?_) fun slot hslot => ?_
        · rw [hwidth (hinlines i slot hi), hkinds slot (List.mem_of_getElem? hi)]
          rfl
        · obtain ⟨i, hi, rfl⟩ := List.getElem_of_mem hslot
          obtain ⟨value, hvalue⟩ := hmean i _ (List.getElem?_eq_getElem hi)
          rw [Slot.depth_of_isInline hvalue (hinlines i _ (List.getElem?_eq_getElem hi))]
          omega

end Writer

end JobDesk.Flexbuffer
