import JobDesk.Flexbuffer.Slot

/-!
# Reach — whether distances fit the width of their list

The width of a list is chosen from guesses at the places of its slots, and a guess takes one, two,
three or four bytes for a slot where the list then takes one, two, four or eight.  For slots of one
and two bytes the guess is exact, and eight bytes hold every distance: `distance_lt` says that only
slots of four bytes can be too narrow for the distance they were chosen for.
-/

namespace JobDesk.Flexbuffer

namespace Width

/-! ## 1. The order of widths -/

theorem bytes_pos (w : Width) : 0 < w.bytes := by
  cases w <;> decide

theorem code_le_max_left (a b : Width) : a.code ≤ (a.max b).code := by
  unfold max
  split <;> omega

theorem code_le_max_right (a b : Width) : b.code ≤ (a.max b).code := by
  unfold max
  split <;> omega

theorem max_eq_left {a b : Width} (h : b.code ≤ a.code) : a.max b = a := by
  unfold max
  rw [if_neg (by omega)]

theorem eq_w8_of_code {w : Width} (h : w.code ≤ w8.code) : w = w8 := by
  cases w with
  | w8 => rfl
  | _ => exact absurd h (by decide)

theorem wordCount_le {a b : Width} (h : a.code ≤ b.code) :
    Bytes.wordCount a.bytes ≤ Bytes.wordCount b.bytes := by
  cases a <;> cases b <;> revert h <;> decide

/-! ## 2. What a width holds -/

theorem lt_of_ofWord_le {n : Nat} {w : Width} (hn : n < 0x10000000000000000)
    (h : (ofWord n).code ≤ w.code) : n < Bytes.wordCount w.bytes :=
  Nat.lt_of_lt_of_le (lt_of_ofWord hn) (wordCount_le h)

theorem lt_of_ofWord_eq_w8 {n : Nat} (h : ofWord n = w8) : n < 0x100 := by
  unfold ofWord at h
  split at h
  · assumption
  · split at h <;> (try split at h) <;> exact absurd h (by decide)

theorem lt_of_ofWord_eq_w16 {n : Nat} (h : ofWord n = w16) : n < 0x10000 := by
  unfold ofWord at h
  split at h
  · exact absurd h (by decide)
  · split at h
    · assumption
    · split at h <;> exact absurd h (by decide)

theorem ofSigned_bounds {n : Int} {w : Width} (low : -0x8000000000000000 ≤ n)
    (high : n < 0x8000000000000000) (h : (ofSigned n).code ≤ w.code) :
    -(Bytes.wordCount w.bytes : Int) ≤ 2 * n ∧ 2 * n < (Bytes.wordCount w.bytes : Int) := by
  have hw := wordCount_le h
  have hn : -(Bytes.wordCount (ofSigned n).bytes : Int) ≤ 2 * n ∧
      2 * n < (Bytes.wordCount (ofSigned n).bytes : Int) := by
    unfold ofSigned
    split
    · rw [show Bytes.wordCount w8.bytes = 0x100 from rfl]; omega
    · split
      · rw [show Bytes.wordCount w16.bytes = 0x10000 from rfl]; omega
      · split
        · rw [show Bytes.wordCount w32.bytes = 0x100000000 from rfl]; omega
        · rw [show Bytes.wordCount w64.bytes = 0x10000000000000000 from rfl]; omega
  omega

end Width

/-! ## 3. Guessed and real places -/

def slotPlace (start index : Nat) (list : Width) : Nat :=
  start + (list.bytes - start % list.bytes) % list.bytes + index * list.bytes

theorem start_le_slotPlace (start index : Nat) (list : Width) :
    start ≤ slotPlace start index list := by
  unfold slotPlace
  omega

namespace Slot

variable {start index address : Nat} {kind : Kind} {child list : Width}

/-- A reference asks for a width that its distance would have if the guess were right. -/
theorem ofWord_guessPlace (h : (reference kind child address).width start index ≠ .w64) :
    Width.ofWord (guessPlace start index ((reference kind child address).width start index)
      - address) = (reference kind child address).width start index := by
  simp only [width] at h ⊢
  cases hfind : Width.all.find?
      (fun w => Width.ofWord (guessPlace start index w - address) == w) with
  | none => rw [hfind] at h; exact absurd rfl h
  | some w =>
    have hclass := List.find?_some hfind
    rw [Option.getD_some]
    exact eq_of_beq hclass

/-- Every distance fits the width of its list unless the list has slots of four bytes. -/
theorem distance_lt (hwidth : ((reference kind child address).width start index).code ≤ list.code)
    (hback : address ≤ start) (hsize : slotPlace start index list < 0x10000000000000000)
    (hfour : list = .w32 → slotPlace start index list - address < 0x100000000) :
    slotPlace start index list - address < Bytes.wordCount list.bytes := by
  have hguess := @ofWord_guessPlace start index address kind child
  -- Only the guess for the slot's own width is known; the list may be wider because of others.
  generalize (reference kind child address).width start index = w at hwidth hguess
  cases list with
  | w8 =>
    obtain rfl : w = .w8 := Width.eq_w8_of_code hwidth
    have hlt := Width.lt_of_ofWord_eq_w8 (hguess (by decide))
    -- A guess in steps of one byte is the real place.
    simp only [guessPlace, Width.code, slotPlace, Width.bytes] at hlt ⊢
    change _ < 0x100
    omega
  | w16 =>
    -- A list of two-byte slots stands at most one byte further on than a one-byte guess says.
    change _ < 0x10000
    cases w with
    | w8 =>
      have hlt := Width.lt_of_ofWord_eq_w8 (hguess (by decide))
      simp only [guessPlace, Width.code, slotPlace, Width.bytes] at hlt ⊢
      omega
    | w16 =>
      have hlt := Width.lt_of_ofWord_eq_w16 (hguess (by decide))
      simp only [guessPlace, Width.code, slotPlace, Width.bytes] at hlt ⊢
      omega
    | w32 | w64 => exact absurd hwidth (by decide)
  | w32 => exact hfour rfl
  | w64 =>
    change _ < 0x10000000000000000
    omega

end Slot

end JobDesk.Flexbuffer
