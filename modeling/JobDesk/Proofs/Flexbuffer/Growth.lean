import JobDesk.Proofs.Flexbuffer.Lists

/-!
# Growth — writers only append

Whatever is written goes behind what the buffer holds already, so what stands in a buffer stands in
every later one: `Writer.put_grow`.
-/

namespace JobDesk.Flexbuffer.Writer

theorem putKey_grow (w : Writer) (key : String) :
    w.bytes.toList <+: (w.putKey key).2.bytes.toList := by
  unfold putKey
  split
  · exact List.prefix_refl _
  · simp only [Array.toList_push, Array.toList_append, List.append_assoc]
    exact List.prefix_append _ _

theorem putList_grow (w : Writer) (kind : Kind) (head items : List Slot) (hasTypes : Bool) :
    w.bytes.toList <+: (w.putList kind head items hasTypes).2.bytes.toList := by
  obtain ⟨list, -, h⟩ := putList_spec w kind head items hasTypes
  exact h.grow

theorem putVector_grow (w : Writer) (items : List Slot) :
    w.bytes.toList <+: (w.putVector items).2.bytes.toList := by
  -- Every kind of list is put in the same way; they differ in head and types.
  unfold putVector
  split
  · split <;> exact putList_grow _ _ _ _ _
  · exact putList_grow _ _ _ _ _
  · exact putList_grow _ _ _ _ _

theorem putKeys_grow (w : Writer) (keys : List Slot) :
    w.bytes.toList <+: (w.putKeys keys).2.bytes.toList := by
  unfold putKeys
  split
  · exact putVector_grow w []
  · exact putList_grow _ _ _ _ _

theorem putMap_grow (w : Writer) (entries : List Entry) :
    w.bytes.toList <+: (w.putMap entries).2.bytes.toList :=
  (putKeys_grow w _).trans (putList_grow _ _ _ _ _)

mutual

theorem put_grow (tree : Tree) (w : Writer) :
    w.bytes.toList <+: (put tree w).2.bytes.toList := by
  cases tree with
  | null | bool | int | uint | float => exact List.prefix_refl _
  | string value => exact (putSized_spec w .string _ _).1
  | blob value => exact (putSized_spec w .blob _ _).1
  | vector items => exact (putItems_grow items w []).trans (putVector_grow _ _)
  | map members => exact (putMembers_grow members w []).trans (putMap_grow _ _)

theorem putItems_grow (items : List Tree) (w : Writer) (slots : List Slot) :
    w.bytes.toList <+: (putItems items w slots).2.bytes.toList := by
  cases items with
  | nil => exact List.prefix_refl _
  | cons item rest => exact (put_grow item w).trans (putItems_grow rest _ _)

theorem putMembers_grow (members : List (String × Tree)) (w : Writer) (entries : List Entry) :
    w.bytes.toList <+: (putMembers members w entries).2.bytes.toList := by
  cases members with
  | nil => exact List.prefix_refl _
  | cons member rest =>
    obtain ⟨name, value⟩ := member
    exact ((putKey_grow w name).trans (put_grow value _)).trans (putMembers_grow rest _ _)

end

theorem size_le_of_grow {before after : Bytes} (h : before.toList <+: after.toList) :
    before.size ≤ after.size := by
  have hlength := List.IsPrefix.length_le h
  simpa only [Array.length_toList] using hlength

end JobDesk.Flexbuffer.Writer
