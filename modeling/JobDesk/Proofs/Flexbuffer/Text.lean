import JobDesk.Flexbuffer.Writer
import JobDesk.Flexbuffer.Item
import JobDesk.Proofs.Flexbuffer.Reach
import JobDesk.Proofs.Flexbuffer.Region
import JobDesk.Proofs.Text.Utf8

/-!
# Text — texts and keys in a buffer

A text stands behind its length and a key in front of a zero, so a key without a zero character is
read back from its address alone.  `Writer.Sound` says that the writer's table of keys is true of
its buffer, which is what lets a later map share the key of an earlier one.
-/

namespace JobDesk

namespace Bytes

/-! ## 1. Zeros in UTF-8 -/

theorem eq_zero_of_mem_utf8EncodeChar {c : Char} (h : (0 : UInt8) ∈ String.utf8EncodeChar c) :
    c = '\x00' := by
  have hzero : ∀ n, n < 256 → (0 : UInt8) = UInt8.ofNat n → n = 0 := by
    intro n hn h
    have := congrArg UInt8.toNat h
    rw [UInt8.toNat_ofNat_of_lt' hn] at this
    exact this.symm
  have hval : c.val.toNat = 0 := by
    simp only [String.utf8EncodeChar] at h
    -- Only the one-byte form of a character can be zero: the others set a high bit in each byte.
    split at h
    · exact hzero _ (by omega) (List.mem_singleton.mp h)
    · split at h
      · simp only [List.mem_cons, List.not_mem_nil, or_false] at h
        rcases h with h | h <;> exact absurd (hzero _ (by omega) h) (by omega)
      · split at h
        · simp only [List.mem_cons, List.not_mem_nil, or_false] at h
          rcases h with h | h | h <;> exact absurd (hzero _ (by omega) h) (by omega)
        · simp only [List.mem_cons, List.not_mem_nil, or_false] at h
          rcases h with h | h | h | h <;> exact absurd (hzero _ (by omega) h) (by omega)
  exact Char.ext (UInt32.toNat_inj.mp hval)

theorem zero_notMem_ofText {s : String} (h : '\x00' ∉ s.toList) :
    (0 : UInt8) ∉ (ofText s).toList := by
  rw [toList_ofText, List.mem_flatMap]
  rintro ⟨c, hc, hzero⟩
  exact h (eq_zero_of_mem_utf8EncodeChar hzero ▸ hc)

end Bytes

namespace Flexbuffer

open Bytes (Stands)

variable {final : Bytes} {address : Nat}

/-! ## 2. Keys -/

def KeyStands (bytes : Bytes) (address : Nat) (key : String) : Prop :=
  Stands bytes address ((Bytes.ofText key).toList ++ [0])

theorem KeyStands.address_lt {key : String} (h : KeyStands final address key) :
    address < final.size := by
  have := h.stop_le (by simp)
  simp only [List.length_append, List.length_singleton] at this
  omega

theorem Item.zeroFrom?_eq {content : List UInt8} {rounds : Nat} (hzero : (0 : UInt8) ∉ content)
    (h : Stands final address (content ++ [0])) (hrounds : content.length < rounds) :
    zeroFrom? final rounds address = some (address + content.length) := by
  -- By induction on the bytes before the zero; the rounds only have to outlast them.
  induction content generalizing rounds address with
  | nil =>
    obtain ⟨rounds, rfl⟩ : ∃ n, rounds = n + 1 := ⟨rounds - 1, by simp at hrounds; omega⟩
    have hget := h.getElem? (i := 0) (by simp)
    rw [zeroFrom?, Array.getD_eq_getD_getElem?, ← Nat.add_zero address, hget]
    simp
  | cons b rest ih =>
    obtain ⟨rounds, rfl⟩ : ∃ n, rounds = n + 1 := ⟨rounds - 1, by simp at hrounds; omega⟩
    simp only [List.mem_cons, not_or] at hzero
    have hget := h.getElem? (i := 0) (by simp)
    have hrest : Stands final (address + 1) (rest ++ [0]) :=
      @Stands.right final address [b] (rest ++ [0]) h
    rw [zeroFrom?, Array.getD_eq_getD_getElem?, ← Nat.add_zero address, hget]
    simp only [List.cons_append, List.getElem?_cons_zero, Option.getD_some, Nat.add_zero]
    rw [if_neg (fun hb => hzero.1 hb.symm), ih hzero.2 hrest (by simp at hrounds; omega)]
    simp only [List.length_cons]
    congr 1
    omega

/-- A key that stands in a buffer is read back, unless it holds a zero character. -/
theorem Item.keyText_eq {key : String} (hzero : '\x00' ∉ key.toList)
    (h : KeyStands final address key) : keyText final address = key := by
  have hstop := h.stop_le (by simp)
  have htext := (Stands.left h).extract
  simp only [List.length_append, List.length_singleton] at hstop
  rw [keyText, zeroFrom?_eq (Bytes.zero_notMem_ofText hzero) h (by omega)]
  simp only [htext, Array.toArray_toList, Bytes.toText?_ofText, Option.getD_some]

namespace Writer

/-- Every key in the writer's table stands at the address that the table gives. -/
def Sound (w : Writer) : Prop :=
  ∀ (key : String) (address : Nat), w.keys[key]? = some address → KeyStands w.bytes address key

theorem sound_empty : Sound {} := by
  intro key address h
  simp at h

theorem Sound.grow {w : Writer} (h : w.Sound) {bytes : Bytes}
    (hgrow : w.bytes.toList <+: bytes.toList) : Sound ⟨bytes, w.keys⟩ :=
  fun key address hkey => (h key address hkey).mono hgrow

theorem putKey_spec {w : Writer} (h : w.Sound) (key : String) :
    w.bytes.toList <+: (w.putKey key).2.bytes.toList ∧ (w.putKey key).2.Sound ∧
      ∃ address, (w.putKey key).1 = .reference .key .w8 address ∧
        KeyStands (w.putKey key).2.bytes address key := by
  cases hfound : w.keys[key]? with
  | some address =>
    simp only [putKey, hfound]
    exact ⟨List.prefix_refl _, h, address, rfl, h key address hfound⟩
  | none =>
    simp only [putKey, hfound]
    have hgrow : w.bytes.toList <+: ((w.bytes ++ Bytes.ofText key).push 0).toList := by
      rw [Array.toList_push, Array.toList_append, List.append_assoc]
      exact List.prefix_append _ _
    have hkey : KeyStands ((w.bytes ++ Bytes.ofText key).push 0) w.bytes.size key := by
      have hstands := Bytes.stands_append w.bytes ((Bytes.ofText key).toList ++ [0])
      have hbytes : (w.bytes ++ Bytes.ofText key).push 0 =
          w.bytes ++ ((Bytes.ofText key).toList ++ [0]) := by
        apply Array.toList_inj.mp
        simp
      unfold KeyStands
      rwa [hbytes]
    -- The table gains one entry, which is true of the new key; the others are still true.
    refine ⟨hgrow, ?_, _, rfl, hkey⟩
    intro other address hother
    rw [Std.HashMap.getElem?_insert] at hother
    split at hother
    · rename_i heq
      obtain rfl := Option.some.inj hother
      exact eq_of_beq heq ▸ hkey
    · exact (h other address hother).mono hgrow

/-! ## 3. Texts -/

theorem toList_pad (width : Width) (bytes : Bytes) :
    bytes.toList <+: (pad width bytes).toList := by
  rw [pad, Array.toList_appendList]
  exact List.prefix_append _ _

theorem size_pad (width : Width) (bytes : Bytes) :
    (pad width bytes).size = slotPlace bytes.size 0 width := by
  rw [pad, slotPlace, ← Array.length_toList, Array.toList_appendList, List.length_append,
    List.length_replicate, Array.length_toList]
  omega

/-- A length and its bytes stand in the buffer, the length right before the address. -/
theorem putSized_spec (w : Writer) (kind : Kind) (content : Bytes) (tail : List UInt8) :
    w.bytes.toList <+: (w.putSized kind content tail).2.bytes.toList ∧
      ∃ start,
        (w.putSized kind content tail).1 = .reference kind (.ofWord content.size)
          (start + (Width.ofWord content.size).bytes) ∧
        Stands (w.putSized kind content tail).2.bytes start
          (Bytes.ofWord (Width.ofWord content.size).bytes content.size
            ++ (content.toList ++ tail)) := by
  simp only [putSized]
  -- The length starts where the padding ends, and the content right behind it.
  refine ⟨?_, (pad (.ofWord content.size) w.bytes).size, ?_, ?_⟩
  · refine (toList_pad (.ofWord content.size) w.bytes).trans ?_
    simp only [Array.toList_appendList, Array.toList_append, List.append_assoc]
    exact List.prefix_append _ _
  · congr 1
    rw [← Array.length_toList, Array.toList_appendList, List.length_append, Array.length_toList,
      Bytes.length_ofWord]
  · have h := Bytes.stands_append (pad (.ofWord content.size) w.bytes)
      (Bytes.ofWord (Width.ofWord content.size).bytes content.size ++ (content.toList ++ tail))
    convert h using 1
    apply Array.toList_inj.mp
    simp

end Writer

theorem Item.text_eq {s : String} {kind : Kind} {start : Nat} {tail : List UInt8}
    (hsize : (Bytes.ofText s).size < 0x10000000000000000)
    (h : Stands final start (Bytes.ofWord (Width.ofWord (Bytes.ofText s).size).bytes
      (Bytes.ofText s).size ++ ((Bytes.ofText s).toList ++ tail))) :
    Item.text final ⟨kind, .ofWord (Bytes.ofText s).size,
      start + (Width.ofWord (Bytes.ofText s).size).bytes⟩ = s := by
  have hpos := (Width.ofWord (Bytes.ofText s).size).bytes_pos
  have hlength : Item.length final ⟨kind, .ofWord (Bytes.ofText s).size,
      start + (Width.ofWord (Bytes.ofText s).size).bytes⟩ = (Bytes.ofText s).size := by
    simp only [Item.length]
    rw [if_neg (by omega), Nat.add_sub_cancel]
    exact Bytes.wordAt_eq h.left hpos (Width.lt_of_ofWord hsize)
  -- The text was written within the buffer, so the reader does not give it up as too long.
  have hcontent := Stands.left (Stands.right h)
  have hstop : start + (Width.ofWord (Bytes.ofText s).size).bytes + (Bytes.ofText s).size
      ≤ final.size := by
    rw [← List.append_assoc] at h
    have := h.left.stop_le (by simp; omega)
    simp only [List.length_append, Bytes.length_ofWord, Array.length_toList] at this
    omega
  have hextract := hcontent.extract
  rw [Bytes.length_ofWord, Array.length_toList, Array.toArray_toList] at hextract
  simp only [Item.text, Item.content?, hlength]
  rw [if_pos hstop, hextract, Option.bind_some, Bytes.toText?_ofText, Option.getD_some]

end Flexbuffer

end JobDesk
