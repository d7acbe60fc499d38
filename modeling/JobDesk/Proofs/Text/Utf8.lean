import JobDesk.Bytes
import JobDesk.Text.Lossy
import Mathlib.Algebra.GroupWithZero.Nat

/-!
# UTF-8 — texts and their bytes

A text has at least one byte and at most four for each of its characters, and a text of ASCII
characters has one byte each, from which it is read back whatever the reader does with other bytes.
-/

namespace JobDesk

namespace Bytes

/-! ## 1. Sizes -/

theorem toList_ofText (s : String) :
    (ofText s).toList = s.toList.flatMap String.utf8EncodeChar := by
  have h : s.toByteArray = s.toList.utf8Encode := by simp
  rw [ofText, h, List.utf8Encode, List.data_toByteArray, List.toList_toArray]

theorem size_ofText (s : String) : (ofText s).size = (s.toList.map Char.utf8Size).sum := by
  rw [← Array.length_toList, toList_ofText, List.length_flatMap]
  simp only [String.length_utf8EncodeChar]

theorem size_ofText_le (s : String) : (ofText s).size ≤ 4 * s.length := by
  rw [size_ofText, ← String.length_toList]
  induction s.toList with
  | nil => exact Nat.le_refl _
  | cons c rest ih =>
    have hchar := c.utf8Size_le_four
    rw [List.map_cons, List.sum_cons, List.length_cons]
    omega

theorem length_le_size_ofText (s : String) : s.length ≤ (ofText s).size := by
  rw [size_ofText, ← String.length_toList]
  induction s.toList with
  | nil => exact Nat.le_refl _
  | cons c rest ih =>
    have hchar := c.utf8Size_pos
    rw [List.map_cons, List.sum_cons, List.length_cons]
    omega

theorem ofText_of_toText? {bytes : Bytes} {s : String} (h : toText? bytes = some s) :
    ofText s = bytes := by
  unfold toText? String.fromUTF8? at h
  split at h
  · obtain rfl := Option.some.inj h
    rfl
  · cases h

end Bytes

/-! ## 2. ASCII -/

theorem utf8EncodeChar_ascii {c : Char} (h : c.toNat < 0x80) :
    String.utf8EncodeChar c = [UInt8.ofNat c.toNat] := by
  unfold Char.toNat at h
  simp only [String.utf8EncodeChar]
  rw [if_pos (by omega)]
  rfl

theorem toList_ofText_ascii {s : String} (h : ∀ c ∈ s.toList, c.toNat < 0x80) :
    (Bytes.ofText s).toList = s.toList.map fun c => UInt8.ofNat c.toNat := by
  rw [Bytes.toList_ofText]
  generalize s.toList = cs at h
  induction cs with
  | nil => rfl
  | cons c rest ih =>
    rw [List.flatMap_cons, utf8EncodeChar_ascii (h c List.mem_cons_self),
      ih fun d hd => h d (List.mem_cons_of_mem c hd), List.map_cons, List.singleton_append]

namespace Text

theorem take_ascii (text : String) {c : Char} (h : c.toNat < 0x80) :
    LossyReader.take { text := text } (UInt8.ofNat c.toNat) = { text := text.push c } := by
  have hbyte : (UInt8.ofNat c.toNat).toNat = c.toNat :=
    UInt8.toNat_ofNat_of_lt' (by show _ < 256; omega)
  simp only [LossyReader.take, LossyReader.start, hbyte]
  rw [if_pos h, Char.ofNat_toNat]

theorem foldl_take_ascii (text : String) {cs : List Char} (h : ∀ c ∈ cs, c.toNat < 0x80) :
    (cs.map fun c => UInt8.ofNat c.toNat).foldl LossyReader.take { text := text } =
      { text := text ++ String.ofList cs } := by
  induction cs generalizing text with
  | nil => simp
  | cons c rest ih =>
    have htext : text.push c ++ String.ofList rest = text ++ String.ofList (c :: rest) :=
      String.toList_inj.mp (by simp)
    rw [List.map_cons, List.foldl_cons, take_ascii text (h c List.mem_cons_self),
      ih _ fun d hd => h d (List.mem_cons_of_mem c hd), htext]

theorem lossy_ofText {s : String} (h : ∀ c ∈ s.toList, c.toNat < 0x80) :
    lossy (Bytes.ofText s).toList = s := by
  rw [lossy, toList_ofText_ascii h]
  exact (congrArg LossyReader.finish (foldl_take_ascii "" h)).trans (by simp [LossyReader.finish])

end Text

end JobDesk
