import JobDesk.Proofs.Text.Utf8

/-!
# Byte order — texts are in the order of their bytes

Texts are compared character by character, and their bytes byte by byte.  The two orders are one: of
two characters the smaller has the smaller bytes, and the bytes of neither begin those of the other.
-/

namespace JobDesk.Bytes

variable {a b : Nat} {s t : List UInt8}

/-! ## 1. One byte -/

theorem lex_of_lt (hb : b < 256) (h : a < b) :
    List.Lex (· < ·) (UInt8.ofNat a :: s) (UInt8.ofNat b :: t) :=
  .rel ((UInt8.ofNat_lt_iff_lt (Nat.lt_trans h hb) hb).mpr h)

theorem lex_of_le (hb : b < 256) (h : a ≤ b) (hrest : a = b → List.Lex (· < ·) s t) :
    List.Lex (· < ·) (UInt8.ofNat a :: s) (UInt8.ofNat b :: t) := by
  rcases Nat.lt_or_eq_of_le h with hlt | rfl
  · exact lex_of_lt hb hlt
  · exact .cons (hrest rfl)

/-! ## 2. One character -/

/-- The bytes of the smaller of two characters come first, whatever follows them. -/
theorem utf8EncodeChar_lex {c d : Char} (h : c < d) (s t : List UInt8) :
    List.Lex (· < ·) (String.utf8EncodeChar c ++ s) (String.utf8EncodeChar d ++ t) := by
  have hlt : c.val.toNat < d.val.toNat := h
  have hrange : d.val.toNat < 0x110000 := by
    rcases d.valid with hlow | ⟨-, hhigh⟩
    · exact Nat.lt_trans hlow (by decide)
    · exact hhigh
  simp only [String.utf8EncodeChar]
  generalize c.val.toNat = m at hlt ⊢
  generalize d.val.toNat = n at hlt hrange ⊢
  -- A larger first byte announces more bytes; of as many bytes, the first that differs decides.
  by_cases h1 : n ≤ 127
  · rw [if_pos (by omega : m ≤ 127), if_pos h1]
    exact lex_of_lt (by omega) hlt
  rw [if_neg h1]
  by_cases h2 : n ≤ 2047
  · rw [if_pos h2]
    split
    · exact lex_of_lt (by omega) (by omega)
    · rw [if_pos (by omega)]
      exact lex_of_le (by omega) (by omega) fun _ => lex_of_lt (by omega) (by omega)
  rw [if_neg h2]
  by_cases h3 : n ≤ 65535
  · rw [if_pos h3]
    split
    · exact lex_of_lt (by omega) (by omega)
    split
    · exact lex_of_lt (by omega) (by omega)
    · rw [if_pos (by omega)]
      exact lex_of_le (by omega) (by omega) fun _ =>
        lex_of_le (by omega) (by omega) fun _ => lex_of_lt (by omega) (by omega)
  rw [if_neg h3]
  split
  · exact lex_of_lt (by omega) (by omega)
  split
  · exact lex_of_lt (by omega) (by omega)
  split
  · exact lex_of_lt (by omega) (by omega)
  · exact lex_of_le (by omega) (by omega) fun _ =>
      lex_of_le (by omega) (by omega) fun _ =>
        lex_of_le (by omega) (by omega) fun _ => lex_of_lt (by omega) (by omega)

theorem utf8EncodeChar_ne_nil (c : Char) : String.utf8EncodeChar c ≠ [] := by
  have hpos := c.utf8Size_pos
  rw [← String.length_utf8EncodeChar c] at hpos
  exact List.ne_nil_of_length_pos hpos

/-! ## 3. Texts -/

theorem flatMap_utf8EncodeChar_lex {cs ds : List Char} (h : List.Lex (· < ·) cs ds) :
    List.Lex (· < ·) (cs.flatMap String.utf8EncodeChar) (ds.flatMap String.utf8EncodeChar) := by
  induction h with
  | @nil d ds =>
    obtain ⟨byte, rest, hbytes⟩ := List.exists_cons_of_ne_nil (utf8EncodeChar_ne_nil d)
    rw [List.flatMap_cons, hbytes]
    exact .nil
  | rel hlt =>
    rw [List.flatMap_cons, List.flatMap_cons]
    exact utf8EncodeChar_lex hlt _ _
  | cons _ ih =>
    rw [List.flatMap_cons, List.flatMap_cons]
    exact List.append_left_lt ih

theorem ofText_lex {a b : String} (h : a < b) :
    List.Lex (· < ·) (ofText a).toList (ofText b).toList := by
  rw [toList_ofText, toList_ofText]
  exact flatMap_utf8EncodeChar_lex h

end JobDesk.Bytes
