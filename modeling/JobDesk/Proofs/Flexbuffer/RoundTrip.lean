import JobDesk.Proofs.Flexbuffer.Growth
import JobDesk.Proofs.Flexbuffer.Maps

/-!
# Round trip — trees read from their buffers

`Tree.value` is the JSON value that a tree stands for.  `Tree.toJson_toBytes` says that it is read
from the tree's buffer, for every tree that JSON can hold and whose lists reach their addresses; of
the latter only lists with slots of four bytes can fall short, `2 ^ 32` bytes behind a value.
-/

namespace JobDesk.Flexbuffer

open Bytes (Stands)

/-! ## 1. What a tree stands for -/

namespace Tree

mutual

/-- The JSON value that a tree stands for; a run of bytes has none and counts as null. -/
def value : Tree → Json
  | .null | .blob _ => .null
  | .bool b => .bool b
  | .int n => Json.ofInt n.toInt
  | .uint n => Json.ofInt n.toNat
  | .float x => Json.ofDouble x
  | .string s => .string s
  | .vector items => .array (values items)
  | .map members => Json.ofMembers (memberValues members)

def values : List Tree → List Json
  | [] => []
  | item :: rest => value item :: values rest

def memberValues : List (String × Tree) → List (String × Json)
  | [] => []
  | (key, tree) :: rest => (key, value tree) :: memberValues rest

end

mutual

/-- JSON can hold the tree: it has no run of bytes, and no key with a zero character. -/
def Plain : Tree → Prop
  | .blob _ => False
  | .vector items => PlainItems items
  | .map members => PlainMembers members
  | _ => True

def PlainItems : List Tree → Prop
  | [] => True
  | item :: rest => item.Plain ∧ PlainItems rest

def PlainMembers : List (String × Tree) → Prop
  | [] => True
  | (key, tree) :: rest => '\x00' ∉ key.toList ∧ tree.Plain ∧ PlainMembers rest

end

mutual

/-- Every list of the tree reaches its addresses when the tree is written behind a buffer. -/
def Reaches : Tree → Writer → Prop
  | .vector items, w =>
    let (slots, after) := Writer.putItems items w []
    ItemsReach items w ∧ ListReaches after.bytes.size (.uint slots.length :: slots)
  | .map members, w =>
    let (entries, after) := Writer.putMembers members w []
    MembersReach members w ∧ Writer.MapReaches after entries
  | _, _ => True

def ItemsReach : List Tree → Writer → Prop
  | [], _ => True
  | item :: rest, w => item.Reaches w ∧ ItemsReach rest (Writer.put item w).2

def MembersReach : List (String × Tree) → Writer → Prop
  | [], _ => True
  | (key, tree) :: rest, w =>
    tree.Reaches (w.putKey key).2 ∧ MembersReach rest (Writer.put tree (w.putKey key).2).2

end

/-- Every list of a tree's buffer, its end included, reaches its addresses: one with slots of four
bytes stands less than `2 ^ 32` bytes behind each value that it refers to. -/
def InReach (tree : Tree) : Prop :=
  let (root, w) := Writer.put tree {}
  tree.Reaches {} ∧
    root.Reaches (root.width w.bytes.size 0) (slotPlace w.bytes.size 0 (root.width w.bytes.size 0))

end Tree

/-! ## 2. Writing trees -/

namespace Writer

theorem putString_spec {w : Writer} (hsound : w.Sound) (s : String)
    (hsize : (w.putString s).2.bytes.size < 0x8000000000000000) :
    Puts w (w.putString s).2 (w.putString s).1 (.string s) := by
  obtain ⟨hgrow, start, hslot, hstands⟩ := putSized_spec w .string (Bytes.ofText s) [0]
  have hstop := hstands.stop_le (by simp only [List.length_append, List.length_singleton]; omega)
  simp only [List.length_append, Bytes.length_ofWord, Array.length_toList] at hstop
  refine ⟨hgrow, hsound.grow hgrow, ?_⟩
  rw [putString] at hsize ⊢
  rw [hslot]
  refine ⟨rfl, fun _ => nofun, by omega, fun final hfinal depth hdepth => ?_⟩
  obtain ⟨depth, rfl⟩ := Nat.exists_eq_add_of_le' (Nat.le_trans (Nat.le_add_left 1 _) hdepth)
  have htext := @Item.text_eq final s .string start [0] (by omega) (hstands.mono hfinal)
  simp only [Item.toJson, htext]

mutual

theorem put_spec (tree : Tree) (w : Writer) (hsound : w.Sound) (hplain : tree.Plain)
    (hreach : tree.Reaches w) (hsize : (put tree w).2.bytes.size < 0x8000000000000000) :
    Puts w (put tree w).2 (put tree w).1 tree.value := by
  cases tree with
  | null => exact ⟨List.prefix_refl _, hsound, by simp [put, Slot.Means, Tree.value]⟩
  | bool b => exact ⟨List.prefix_refl _, hsound, by simp [put, Slot.Means, Tree.value]⟩
  | int n => exact ⟨List.prefix_refl _, hsound, by simp [put, Slot.Means, Tree.value]⟩
  | uint n => exact ⟨List.prefix_refl _, hsound, by simp [put, Tree.value, Slot.Means, n.toNat_lt]⟩
  | float x => exact ⟨List.prefix_refl _, hsound, by simp [put, Slot.Means, Tree.value]⟩
  | string s => exact putString_spec hsound s hsize
  | blob bytes => exact absurd hplain (by simp [Tree.Plain])
  | vector items =>
    simp only [put, Tree.Reaches, Tree.Plain] at hplain hreach hsize ⊢
    have hgrow := putVector_grow (putItems items w []).2 (putItems items w []).1
    have hlength := size_le_of_grow hgrow
    obtain ⟨hitems, hsound, hmeans⟩ := putItems_spec items w [] [] hsound hplain hreach.1
      (by omega) List.Forall₂.nil
    -- The items come first, so the list that refers to them stands behind all of them.
    have hvector := putVector_spec hsound hmeans hreach.2 hsize
    exact ⟨hitems.trans hvector.grow, hvector.sound, hvector.means⟩
  | map members =>
    simp only [put, Tree.Reaches, Tree.Plain] at hplain hreach hsize ⊢
    have hgrow := putMap_grow (putMembers members w []).2 (putMembers members w []).1
    have hlength := size_le_of_grow hgrow
    obtain ⟨hmembers, hsound, hmeans⟩ := putMembers_spec members w [] [] hsound hplain hreach.1
      (by omega) List.Forall₂.nil
    -- The same for a map, whose keys and values stand before both of its lists.
    have hmap := putMap_spec hsound hmeans hreach.2 hsize
    exact ⟨hmembers.trans hmap.grow, hmap.sound, hmap.means⟩

theorem putItems_spec (items : List Tree) (w : Writer) (slots : List Slot) (values : List Json)
    (hsound : w.Sound) (hplain : Tree.PlainItems items) (hreach : Tree.ItemsReach items w)
    (hsize : (putItems items w slots).2.bytes.size < 0x8000000000000000)
    (hslots : List.Forall₂ (fun slot value => slot.Means w.bytes value) slots values) :
    w.bytes.toList <+: (putItems items w slots).2.bytes.toList ∧
      (putItems items w slots).2.Sound ∧
      List.Forall₂ (fun slot value => slot.Means (putItems items w slots).2.bytes value)
        (putItems items w slots).1 (values.reverse ++ Tree.values items) := by
  cases items with
  | nil =>
    simp only [putItems, Tree.values, List.append_nil]
    exact ⟨List.prefix_refl _, hsound, List.rel_reverse hslots⟩
  | cons item rest =>
    simp only [putItems, Tree.PlainItems, Tree.ItemsReach, Tree.values] at hplain hreach hsize ⊢
    have hlength := size_le_of_grow
      (putItems_grow rest (put item w).2 ((put item w).1 :: slots))
    have hitem := put_spec item w hsound hplain.1 hreach.1 (by omega)
    -- What the slots before stand for does not change when the buffer grows.
    have hnext := hslots.imp fun slot value h => h.mono hitem.grow
    obtain ⟨hgrow, hafter, hmeans⟩ := putItems_spec rest (put item w).2 ((put item w).1 :: slots)
      (item.value :: values) hitem.sound hplain.2 hreach.2 hsize (.cons hitem.means hnext)
    rw [List.reverse_cons, List.append_assoc, List.singleton_append] at hmeans
    exact ⟨hitem.grow.trans hgrow, hafter, hmeans⟩

theorem putMembers_spec (members : List (String × Tree)) (w : Writer) (entries : List Entry)
    (values : List (String × Json)) (hsound : w.Sound) (hplain : Tree.PlainMembers members)
    (hreach : Tree.MembersReach members w)
    (hsize : (putMembers members w entries).2.bytes.size < 0x8000000000000000)
    (hentries : List.Forall₂ (Entry.Means w.bytes) entries values) :
    w.bytes.toList <+: (putMembers members w entries).2.bytes.toList ∧
      (putMembers members w entries).2.Sound ∧
      List.Forall₂ (Entry.Means (putMembers members w entries).2.bytes)
        (putMembers members w entries).1 (values.reverse ++ Tree.memberValues members) := by
  cases members with
  | nil =>
    simp only [putMembers, Tree.memberValues, List.append_nil]
    exact ⟨List.prefix_refl _, hsound, List.rel_reverse hentries⟩
  | cons member rest =>
    obtain ⟨name, tree⟩ := member
    simp only [Tree.PlainMembers, Tree.MembersReach] at hplain hreach
    simp only [putMembers, Tree.memberValues] at hsize ⊢
    obtain ⟨hkeyGrow, hkeySound, address, hkey, hstands⟩ := putKey_spec hsound name
    generalize w.putKey name = keyed at *
    have hlength := size_le_of_grow (putMembers_grow rest (put tree keyed.2).2
      (⟨name, keyed.1, (put tree keyed.2).1⟩ :: entries))
    have hvalue := put_spec tree keyed.2 hkeySound hplain.2.1 hreach.1 (by omega)
    have hnext := hentries.imp fun entry member h => h.mono (hkeyGrow.trans hvalue.grow)
    have hentry : Entry.Means (put tree keyed.2).2.bytes ⟨name, keyed.1, (put tree keyed.2).1⟩
        (name, tree.value) := {
      name_eq := rfl
      zero_notMem := hplain.1
      key := ⟨address, hkey, hstands.mono hvalue.grow⟩
      value := hvalue.means }
    obtain ⟨hgrow, hafter, hmeans⟩ := putMembers_spec rest (put tree keyed.2).2
      (⟨name, keyed.1, (put tree keyed.2).1⟩ :: entries) ((name, tree.value) :: values)
      hvalue.sound hplain.2.2 hreach.2 hsize (.cons hentry hnext)
    rw [List.reverse_cons, List.append_assoc, List.singleton_append] at hmeans
    exact ⟨(hkeyGrow.trans hvalue.grow).trans hgrow, hafter, hmeans⟩

end

/-! ## 3. The end of a buffer -/

/-- The end of a buffer: the slot of the whole value, and behind it two bytes. -/
theorem finish_eq (w : Writer) (root : Slot) {list : Width}
    (hlist : root.width w.bytes.size 0 = list) :
    ∃ bytes : Bytes, w.bytes.toList <+: bytes.toList ∧
      bytes.size = slotPlace w.bytes.size 0 list + list.bytes ∧
      Stands bytes (slotPlace w.bytes.size 0 list)
        (Bytes.ofWord list.bytes (root.word list (slotPlace w.bytes.size 0 list))) ∧
      w.finish root =
        (bytes.push (root.kind.typeByte (root.typeWidth list))).push (UInt8.ofNat list.bytes) := by
  obtain ⟨hgrow, hslots, hstands⟩ := putSlots_spec list [root] (pad list w.bytes)
  refine ⟨putSlots list [root] (pad list w.bytes), (toList_pad list w.bytes).trans hgrow, ?_, ?_,
    ?_⟩
  · rw [hslots, size_pad, List.length_singleton, Nat.one_mul]
  · have hstand := hstands 0 root rfl
    rwa [Nat.zero_mul, Nat.add_zero, size_pad] at hstand
  · simp only [finish, hlist]
    rfl

theorem size_finish (w : Writer) (root : Slot) : w.bytes.size + 2 ≤ (w.finish root).size := by
  obtain ⟨bytes, hgrow, -, -, hfinish⟩ := finish_eq w root rfl
  have hlength := size_le_of_grow hgrow
  rw [hfinish, Array.size_push, Array.size_push]
  omega

theorem root_finish {w : Writer} {root : Slot} {value : Json}
    (hmeans : root.Means w.bytes value)
    (hreach : root.Reaches (root.width w.bytes.size 0)
      (slotPlace w.bytes.size 0 (root.width w.bytes.size 0)))
    (hsize : (w.finish root).size < 0x8000000000000000) :
    ∃ item, Item.root (w.finish root) = .ok item ∧
      ∀ depth, root.depth ≤ depth → item.toJson (w.finish root) depth = .ok value := by
  generalize hlist : root.width w.bytes.size 0 = list at hreach
  obtain ⟨bytes, hgrow, hbytes, hstand, hfinish⟩ := finish_eq w root hlist
  have hsizes : (w.finish root).size = bytes.size + 2 := by
    rw [hfinish, Array.size_push, Array.size_push]
  have hfinal : bytes.toList <+: (w.finish root).toList := by
    simp only [hfinish, Array.toList_push, List.append_assoc]
    exact List.prefix_append _ _
  have hfits : root.Fits list (slotPlace w.bytes.size 0 list) :=
    Slot.fits_of_width (by rw [hlist]) hmeans.valid (by omega) hreach
  obtain ⟨item, hitem, hread⟩ :=
    Item.ofSlot_eq (hgrow.trans hfinal) hmeans hfits (hstand.mono hfinal)
  refine ⟨item, ?_, hread⟩
  -- The reader starts from the last two bytes: the width of the root, and its type.
  have hpos := list.bytes_pos
  have hwidth : (w.finish root).getD ((w.finish root).size - 1) 0 = UInt8.ofNat list.bytes := by
    rw [hsizes, hfinish, Array.getD_eq_getD_getElem?, Array.getElem?_push, Array.size_push]
    simp
  have htype : (w.finish root).getD ((w.finish root).size - 2) 0 =
      root.kind.typeByte (root.typeWidth list) := by
    rw [hsizes, hfinish, Array.getD_eq_getD_getElem?, Array.getElem?_push, Array.size_push,
      Nat.add_sub_cancel, if_neg (by omega), Array.getElem?_push]
    simp
  have hbyte : (UInt8.ofNat list.bytes).toNat = list.bytes := by cases list <;> rfl
  rw [Item.root, hwidth, htype, hbyte, Width.ofBytes?_bytes, Kind.ofTypeByte?_typeByte,
    if_neg (by omega)]
  simp only []
  rw [if_neg (by omega), show (w.finish root).size - 2 - list.bytes
    = slotPlace w.bytes.size 0 list by omega, hitem]

end Writer

/-- A tree that JSON can hold is read from its buffer, if all lists of the buffer reach. -/
theorem Tree.toJson_toBytes {tree : Tree} (hplain : tree.Plain) (hreach : tree.InReach)
    (hsize : tree.toBytes.size < 0x8000000000000000) :
    toJson tree.toBytes = .ok tree.value := by
  simp only [Tree.toBytes, InReach] at hreach hsize ⊢
  have hshort := Writer.size_finish (Writer.put tree {}).2 (Writer.put tree {}).1
  have hput := Writer.put_spec tree {} Writer.sound_empty hplain hreach.1 (by omega)
  obtain ⟨item, hitem, hread⟩ := Writer.root_finish hput.means hreach.2 hsize
  -- The reader's nesting limit is the size of the buffer, which no nesting can exceed.
  have hdepth := hput.means.valid.depth_le
  simp only [toJson, hitem]
  exact hread _ (by omega)

end JobDesk.Flexbuffer
