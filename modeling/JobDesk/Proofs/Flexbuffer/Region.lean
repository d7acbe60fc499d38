import JobDesk.Bytes
import Mathlib.Data.List.Infix

/-!
# Region — bytes at an address

Whatever a writer appends stays where it was put: `Stands` says that some bytes are found in a
buffer from an address on, and `Stands.mono` that they are still found there after the buffer has
grown.  The reader's ways to look into a buffer are restated over regions.
-/

namespace JobDesk.Bytes

/-! ## 1. Regions -/

def Stands (bytes : Bytes) (address : Nat) (content : List UInt8) : Prop :=
  content <+: bytes.toList.drop address

variable {before after bytes : Bytes} {address : Nat} {content first second : List UInt8}

theorem Stands.mono (hgrow : before.toList <+: after.toList) (h : Stands before address content) :
    Stands after address content :=
  List.IsPrefix.trans h (List.IsPrefix.drop hgrow address)

theorem Stands.left (h : Stands bytes address (first ++ second)) : Stands bytes address first :=
  List.IsPrefix.trans (List.prefix_append first second) h

theorem Stands.right (h : Stands bytes address (first ++ second)) :
    Stands bytes (address + first.length) second := by
  obtain ⟨rest, hrest⟩ := h
  refine ⟨rest, ?_⟩
  rw [← List.drop_drop, ← hrest, List.append_assoc, List.drop_left]

theorem stands_append (bytes : Bytes) (content : List UInt8) :
    Stands (bytes ++ content) bytes.size content := by
  unfold Stands
  rw [Array.toList_appendList, ← Array.length_toList, List.drop_left]

theorem Stands.length_le (h : Stands bytes address content) :
    content.length ≤ bytes.size - address := by
  have hlen := List.IsPrefix.length_le h
  rwa [List.length_drop, Array.length_toList] at hlen

theorem Stands.stop_le (h : Stands bytes address content) (hpos : 0 < content.length) :
    address + content.length ≤ bytes.size := by
  have := h.length_le
  omega

/-! ## 2. Looking into regions -/

theorem Stands.getElem? (h : Stands bytes address content) {i : Nat} (hi : i < content.length) :
    bytes[address + i]? = content[i]? := by
  rw [← Array.getElem?_toList, ← List.getElem?_drop]
  exact List.prefix_iff_getElem?.mp h i hi ▸ (List.getElem?_eq_getElem hi).symm

theorem Stands.extract (h : Stands bytes address content) :
    bytes.extract address (address + content.length) = content.toArray := by
  apply Array.toList_inj.mp
  -- What stands at an address is what the buffer begins with once the bytes before it are dropped.
  rw [Array.toList_extract, List.extract_eq_take_drop, Nat.add_sub_cancel_left]
  exact (List.prefix_iff_eq_take.mp h).symm

theorem wordAt_of_stands {count n : Nat} (h : Stands bytes address (ofWord count n))
    (hpos : 0 < count) : wordAt bytes address count = n % wordCount count := by
  have hstop := h.stop_le (by rwa [length_ofWord])
  have hextract := h.extract
  rw [length_ofWord] at hstop hextract
  rw [wordAt, if_pos hstop, hextract]
  exact toWord_ofWord count n

theorem wordAt_eq {count n : Nat} (h : Stands bytes address (ofWord count n))
    (hpos : 0 < count) (hfit : n < wordCount count) : wordAt bytes address count = n := by
  rw [wordAt_of_stands h hpos, Nat.mod_eq_of_lt hfit]

theorem wordOfInt_lt (count : Nat) (n : Int) : wordOfInt count n < wordCount count := by
  have hpos := wordCount_pos count
  have hmod := Int.emod_lt_of_pos n (by omega : 0 < (wordCount count : Int))
  unfold wordOfInt
  omega

end JobDesk.Bytes
