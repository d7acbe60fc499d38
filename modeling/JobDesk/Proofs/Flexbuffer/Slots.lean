import JobDesk.Flexbuffer.Reader
import JobDesk.Proofs.Flexbuffer.Text

/-!
# Slots — slots written and read

`Slot.Means` says which JSON value a slot stands for in a buffer, and `Slot.Fits` that a list is
wide enough for it.  A slot that fits its list and was written is read as the value that it means:
`Item.ofSlot_eq`.
-/

namespace JobDesk.Flexbuffer

open Bytes (Stands)

namespace Slot

/-! ## 1. Meaning and fit -/

/-- The JSON value that a slot stands for.  The value of a reference is read from its address, also
after the buffer has grown; a value is never nested deeper than its address allows. -/
def Means (bytes : Bytes) (value : Json) : Slot → Prop
  | null => value = .null
  | bool b => value = .bool b
  | int n => value = Json.ofInt n.toInt
  | uint n => value = Json.ofInt n ∧ n < 0x10000000000000000
  | float x => value = Json.ofDouble x
  | reference kind child address =>
    kind.isInline = false ∧ (∀ item, kind ≠ .indirect item) ∧ address ≤ bytes.size ∧
      ∀ final : Bytes, bytes.toList <+: final.toList → ∀ depth, address + 2 ≤ depth →
        Item.toJson final depth ⟨kind, child, address⟩ = .ok value

theorem Means.mono {before after : Bytes} {value : Json} {slot : Slot}
    (hgrow : before.toList <+: after.toList) (h : slot.Means before value) :
    slot.Means after value := by
  cases slot with
  | reference kind child address =>
    obtain ⟨hinline, hindirect, haddress, hread⟩ := h
    have hlen := List.IsPrefix.length_le hgrow
    simp only [Array.length_toList] at hlen
    exact ⟨hinline, hindirect, by omega, fun final hfinal => hread final (hgrow.trans hfinal)⟩
  | _ => exact h

def depth : Slot → Nat
  | reference _ _ address => address + 2
  | _ => 1

def Valid (size : Nat) : Slot → Prop
  | uint n => n < 0x10000000000000000
  | reference _ _ address => address ≤ size
  | _ => True

theorem Means.valid {bytes : Bytes} {value : Json} {slot : Slot} (h : slot.Means bytes value) :
    slot.Valid bytes.size := by
  cases slot with
  | uint n => exact h.2
  | reference kind child address => exact h.2.2.1
  | _ => trivial

def Fits (list : Width) (place : Nat) : Slot → Prop
  | null | bool _ => True
  | int n => (Width.ofSigned n.toInt).code ≤ list.code
  | uint n => (Width.ofWord n).code ≤ list.code ∧ n < 0x10000000000000000
  | float x => (if x.narrow?.isSome then Width.w32 else .w64).code ≤ list.code
  | reference _ _ address => address ≤ place ∧ place - address < Bytes.wordCount list.bytes

/-- Slots of four bytes reach back less than `2 ^ 32` bytes. -/
def Reaches (list : Width) (place : Nat) : Slot → Prop
  | reference _ _ address => list = .w32 → place - address < 0x100000000
  | _ => True

theorem fits_of_width {start index : Nat} {list : Width} {slot : Slot}
    (hwidth : (slot.width start index).code ≤ list.code) (hvalid : slot.Valid start)
    (hsize : slotPlace start index list < 0x10000000000000000)
    (hreach : slot.Reaches list (slotPlace start index list)) :
    slot.Fits list (slotPlace start index list) := by
  cases slot with
  | null | bool => trivial
  | int n => exact hwidth
  | uint n => exact ⟨hwidth, hvalid⟩
  | float x => exact hwidth
  | reference kind child address =>
    exact ⟨Nat.le_trans hvalid (start_le_slotPlace start index list),
      distance_lt hwidth hvalid hsize hreach⟩

theorem typeWidth_eq {bytes : Bytes} {value : Json} {list : Width} {place : Nat} {slot : Slot}
    (hmeans : slot.Means bytes value) (hfits : slot.Fits list place)
    (hinline : slot.kind.isInline = true) : slot.typeWidth list = list := by
  cases slot with
  | null | bool => rfl
  | int n => exact Width.max_eq_left hfits
  | uint n => exact Width.max_eq_left hfits.1
  | float x => exact Width.max_eq_left hfits
  | reference kind child address => exact absurd (hmeans.1.symm.trans hinline) (by decide)

end Slot

/-! ## 2. Reading a slot -/

namespace Item

variable {final : Bytes} {place : Nat}

theorem double_eq {x : Binary64} {list : Width} (hfits : (Slot.float x).Fits list place)
    (h : Stands final place (Bytes.ofWord list.bytes ((Slot.float x).word list place))) :
    Item.double final ⟨.number .float, list, place⟩ = .ok (Json.ofDouble x) := by
  simp only [Slot.Fits] at hfits
  cases list with
  | w8 | w16 => split at hfits <;> exact absurd hfits (by decide)
  | w32 =>
    -- A double is written in four bytes only if it is one of those that widen back to it.
    split at hfits
    · rename_i hsome
      obtain ⟨word, hword⟩ := Option.isSome_iff_exists.mp hsome
      have hread : Bytes.wordAt final place 4 = word.toNat := by
        simp only [Slot.word, hword, Option.map_some, Option.getD_some] at h
        exact Bytes.wordAt_eq h (by decide) word.toNat_lt
      simp only [double, Item.word, Width.bytes, hread, UInt32.ofNat_toNat]
      rw [Binary64.widen_of_narrow? hword]
    · exact absurd hfits (by decide)
  | w64 =>
    have hread : Bytes.wordAt final place 8 = x.bits.toNat :=
      Bytes.wordAt_eq h (by decide) x.bits.toNat_lt
    simp only [double, Item.word, Width.bytes, hread, UInt64.ofNat_toNat]

theorem int_eq {n : Int64} {list : Width} (hfits : (Slot.int n).Fits list place)
    (h : Stands final place (Bytes.ofWord list.bytes ((Slot.int n).word list place))) :
    Bytes.intOfWord list.bytes (Bytes.wordAt final place list.bytes) = n.toInt := by
  have hlow : -0x8000000000000000 ≤ n.toInt := n.le_toInt
  have hhigh : n.toInt < 0x8000000000000000 := n.toInt_lt
  -- Any wider slot holds the number too, with its sign in the highest bit of the wider word.
  have hbounds := Width.ofSigned_bounds hlow hhigh hfits
  rw [Bytes.wordAt_eq h list.bytes_pos (Bytes.wordOfInt_lt _ _)]
  exact Bytes.intOfWord_wordOfInt hbounds.1 hbounds.2

theorem follow_eq {place address : Nat} {kind : Kind} {child list : Width}
    (hfits : (Slot.reference kind child address).Fits list place)
    (h : Stands final place (Bytes.ofWord list.bytes
      ((Slot.reference kind child address).word list place))) :
    follow final place list = .ok address := by
  obtain ⟨hback, hreach⟩ := hfits
  have hdistance : Bytes.wordAt final place list.bytes = place - address :=
    Bytes.wordAt_eq h list.bytes_pos hreach
  -- The distance was taken from the same place, so it cannot lead before the buffer.
  simp only [follow, hdistance]
  rw [if_neg (by omega)]
  congr 1
  omega

theorem ofSlot_eq {before : Bytes} {value : Json} {list : Width} {slot : Slot}
    (hgrow : before.toList <+: final.toList) (hmeans : slot.Means before value)
    (hfits : slot.Fits list place)
    (h : Stands final place (Bytes.ofWord list.bytes (slot.word list place))) :
    ∃ item, ofSlot final slot.kind (slot.typeWidth list) place list = .ok item ∧
      ∀ depth, slot.depth ≤ depth → item.toJson final depth = .ok value := by
  have hpos := list.bytes_pos
  -- A number is read where it stands; only the last case leads to another address.
  have hinline : ∀ (hkind : slot.kind.isInline = true),
      (∀ depth, Item.toJson final (depth + 1) ⟨slot.kind, list, place⟩ = .ok value) →
      ∃ item, ofSlot final slot.kind (slot.typeWidth list) place list = .ok item ∧
        ∀ depth, slot.depth ≤ depth → item.toJson final depth = .ok value := by
    intro hkind hread
    refine ⟨⟨slot.kind, list, place⟩, ?_, fun depth hdepth => ?_⟩
    · rw [ofSlot, if_pos hkind, Slot.typeWidth_eq hmeans hfits hkind]
    · have hone : 1 ≤ slot.depth := by cases slot <;> simp [Slot.depth]
      obtain ⟨depth, rfl⟩ := Nat.exists_eq_add_of_le' (Nat.le_trans hone hdepth)
      exact hread depth
  cases slot with
  | null =>
    obtain rfl : value = .null := hmeans
    exact hinline rfl fun depth => rfl
  | bool b =>
    obtain rfl : value = .bool b := hmeans
    refine hinline rfl fun depth => ?_
    have hword : Bytes.wordAt final place list.bytes = b.toNat :=
      Bytes.wordAt_eq h hpos (by cases list <;> cases b <;> decide)
    simp only [toJson, Slot.kind, word, hword]
    cases b <;> rfl
  | int n =>
    obtain rfl : value = Json.ofInt n.toInt := hmeans
    refine hinline rfl fun depth => ?_
    simp only [toJson, Slot.kind, word, int_eq hfits h]
  | uint n =>
    obtain ⟨hvalue, -⟩ := hmeans
    obtain ⟨hwidth, hsmall⟩ := hfits
    refine hinline rfl fun depth => ?_
    have hword : Bytes.wordAt final place list.bytes = n :=
      Bytes.wordAt_eq h hpos (Width.lt_of_ofWord_le hsmall hwidth)
    rw [hvalue]
    simp only [toJson, Slot.kind, word, hword]
  | float x =>
    obtain rfl : value = Json.ofDouble x := hmeans
    exact hinline rfl fun depth => double_eq hfits h
  | reference kind child address =>
    obtain ⟨hkind, hindirect, -, hread⟩ := hmeans
    refine ⟨⟨kind, child, address⟩, ?_, hread final hgrow⟩
    simp only [ofSlot, Slot.kind, Slot.typeWidth, hkind, follow_eq hfits h]
    cases kind with
    | indirect item => exact absurd rfl (hindirect item)
    | _ => rfl

end Item

end JobDesk.Flexbuffer
