import JobDesk.Proofs.Flexbuffer.RoundTrip

/-!
# Limit — where slots of four bytes are too few

A list of slots of four bytes guesses its places in steps of three, so that it can take a distance
of `2 ^ 32` for one that has room in its slots.  That happens to a list of one text with six bytes
less: the distance back to the text is put down as zero, and the slot is read as the text itself.
In slots of eight bytes the same list is read as it should be.
-/

namespace JobDesk.Flexbuffer

open Bytes (Stands)

/-! ## 1. Lists of one text -/

/-- The end of a buffer that is a list of one text: the number of items, the distance back to the
text and its type byte, and behind the list the root. -/
def singleEnd (list child : Width) (distance : Nat) : List UInt8 :=
  Bytes.ofWord list.bytes 1 ++ (Bytes.ofWord list.bytes distance ++
    ([Kind.string.typeByte child] ++ (Bytes.ofWord 1 (list.bytes + 1) ++
      [Kind.vector.typeByte list, 1])))

variable {front : List UInt8} {list child : Width} {distance : Nat}

theorem stands_singleEnd :
    Stands (front ++ singleEnd list child distance).toArray front.length
      (singleEnd list child distance) := by
  rw [Stands, List.toList_toArray, List.drop_left]

theorem follow_of_stands {bytes : Bytes} {place : Nat}
    (h : Stands bytes place (Bytes.ofWord list.bytes distance))
    (hfit : distance < Bytes.wordCount list.bytes) (hback : distance ≤ place) :
    Item.follow bytes place list = .ok (place - distance) := by
  simp only [Item.follow, Bytes.wordAt_eq h list.bytes_pos hfit]
  rw [if_neg (Nat.not_lt.mpr hback)]

/-- A buffer ends with a list of one text, the slot of which stands at `place`. -/
structure EndsWithSingle (bytes : Bytes) (list child : Width) (distance place : Nat) : Prop where
  size : bytes.size = place + list.bytes + 4
  room : list.bytes ≤ place
  count : Stands bytes (place - list.bytes) (Bytes.ofWord list.bytes 1)
  slot : Stands bytes place (Bytes.ofWord list.bytes distance)
  type : bytes[place + list.bytes]? = some (Kind.string.typeByte child)
  root : Stands bytes (place + list.bytes + 1) (Bytes.ofWord 1 (list.bytes + 1))
  rootType : bytes[place + list.bytes + 2]? = some (Kind.vector.typeByte list)
  rootWidth : bytes[place + list.bytes + 3]? = some 1

theorem endsWithSingle : EndsWithSingle (front ++ singleEnd list child distance).toArray list child
    distance (front.length + list.bytes) := by
  have hcount : Stands (front ++ singleEnd list child distance).toArray front.length
    (singleEnd list child distance) := stands_singleEnd
  have hslot := hcount.right
  have htype := hslot.right
  have hroot := htype.right
  have hend := hroot.right
  simp only [Bytes.length_ofWord, List.length_singleton] at hslot htype hroot hend
  refine ⟨?_, Nat.le_add_left _ _, ?_, hslot.left, htype.getElem? (i := 0) (by simp), hroot.left,
    hend.getElem? (i := 0) (by simp), hend.getElem? (i := 1) (by simp)⟩
  · simp only [singleEnd, List.size_toArray, List.length_append, Bytes.length_ofWord,
      List.length_cons, List.length_nil]
    omega
  · rw [Nat.add_sub_cancel]
    exact hcount.left

namespace EndsWithSingle

variable {bytes : Bytes} {place : Nat}

/-- The root leads back to the list. -/
theorem root_eq (h : EndsWithSingle bytes list child distance place) :
    Item.root bytes = .ok ⟨.vector, list, place⟩ := by
  have hpos := list.bytes_pos
  have hsize := h.size
  have hwidth : bytes.getD (bytes.size - 1) 0 = 1 := by
    rw [Array.getD_eq_getD_getElem?, hsize]
    exact congrArg (Option.getD · 0) h.rootWidth
  have hkind : bytes.getD (bytes.size - 2) 0 = Kind.vector.typeByte list := by
    rw [Array.getD_eq_getD_getElem?, hsize]
    exact congrArg (Option.getD · 0) h.rootType
  have hfollow : Item.follow bytes (place + list.bytes + 1) .w8 = .ok place := by
    rw [follow_of_stands h.root (by cases list <;> decide) (by omega)]
    exact congrArg Except.ok (by omega)
  have hroom : bytes.size - 2 - Width.w8.bytes = place + list.bytes + 1 := by
    rw [hsize]
    rfl
  rw [Item.root, hwidth, hkind, if_neg (by omega), Kind.ofTypeByte?_typeByte]
  change (if bytes.size - 2 < 1 then _ else Item.ofSlot bytes .vector list
    (bytes.size - 2 - Width.w8.bytes) .w8) = _
  rw [if_neg (by omega), hroom, Item.ofSlot, hfollow]
  rfl

/-- The one slot of the list leads back to the text. -/
theorem get?_eq (h : EndsWithSingle bytes list child distance place)
    (hfit : distance < Bytes.wordCount list.bytes) (hback : distance ≤ place) :
    Item.get? bytes ⟨.vector, list, place⟩ 1 0 = some ⟨.string, child, place - distance⟩ := by
  simp only [Item.get?, Item.typeOf?, Nat.one_mul, Nat.zero_mul, Nat.add_zero, h.type,
    Item.ofSlot, follow_of_stands h.slot hfit hback, bind, Option.bind, Kind.ofTypeByte?_typeByte]
  rfl

theorem count_eq (h : EndsWithSingle bytes list child distance place) :
    Item.count bytes ⟨.vector, list, place⟩ = 1 := by
  simp only [Item.count, Item.length]
  rw [if_neg (Nat.not_lt.mpr h.room)]
  exact Bytes.wordAt_eq h.count list.bytes_pos (by cases list <;> decide)

theorem toJson_eq (h : EndsWithSingle bytes list child distance place)
    (hfit : distance < Bytes.wordCount list.bytes) (hback : distance ≤ place) :
    toJson bytes =
      .ok (.array [.string (Item.text bytes ⟨.string, child, place - distance⟩)]) := by
  simp only [toJson, h.root_eq]
  refine @Item.toJson_list bytes _ (.inl rfl) [_] bytes.size h.count_eq fun i value hvalue => ?_
  obtain ⟨rfl, rfl⟩ : i = 0 ∧ value = _ := by
    cases i with
    | zero => exact ⟨rfl, (Option.some.inj hvalue).symm⟩
    | succ i => cases hvalue
  refine ⟨_, h.get?_eq hfit hback, ?_⟩
  rw [h.size]
  rfl

end EndsWithSingle

/-! ## 2. A list at the limit -/

/-- How many bytes a text has whose address lies `2 ^ 32` bytes in front of the next slot of four
bytes that can refer to it. -/
def limit : Nat := 0xfffffffa

variable {s : String}

def limitFront (s : String) : List UInt8 :=
  Bytes.ofWord 4 limit ++ (Bytes.ofText s).toList

theorem length_limitFront (h : (Bytes.ofText s).size = limit) :
    (limitFront s).length = 0xfffffffe := by
  rw [limitFront, List.length_append, Bytes.length_ofWord, Array.length_toList, h]
  rfl

theorem pad_toArray (bytes : List UInt8) :
    let zeros := (list.bytes - bytes.length % list.bytes) % list.bytes
    Writer.pad list bytes.toArray = (bytes ++ List.replicate zeros 0).toArray := by
  apply Array.toList_inj.mp
  simp [Writer.pad]

theorem putSlots_single (slot : Slot) (bytes : List UInt8) :
    Writer.putSlots list [slot] bytes.toArray =
      (bytes ++ Bytes.ofWord list.bytes (slot.word list bytes.length)).toArray := by
  apply Array.toList_inj.mp
  simp [Writer.putSlots]

theorem putTypes_single (slot : Slot) (bytes : List UInt8) :
    Writer.putTypes list [slot] bytes.toArray =
      (bytes ++ [slot.kind.typeByte (slot.typeWidth list)]).toArray := by
  apply Array.toList_inj.mp
  simp [Writer.putTypes]

theorem putString_limit (h : (Bytes.ofText s).size = limit) :
    Writer.putString {} s =
      (.reference .string .w32 4, ⟨(limitFront s ++ [0]).toArray, {}⟩) := by
  have hwidth : Width.ofWord limit = .w32 := rfl
  have hbytes : Writer.pad .w32 #[] ++ Bytes.ofWord 4 limit ++ Bytes.ofText s
      ++ ([0] : List UInt8) = (limitFront s ++ [0]).toArray := by
    apply Array.toList_inj.mp
    simp [limitFront, Writer.pad]
  simp only [Writer.putString, Writer.putSized, h, hwidth]
  exact congrArg (fun bytes => (_, Writer.mk bytes {})) hbytes

/-- A text in front of `2 ^ 32 - 1` bytes has the guess ask for four bytes, and then stands `2 ^ 32`
bytes in front of its slot. -/
theorem putVector_limit {bytes : List UInt8} (h : bytes.length = 0xffffffff) :
    Writer.putVector ⟨bytes.toArray, {}⟩ [.reference .string .w32 4] =
      (.reference .vector .w32 0x100000004, ⟨(bytes ++ [0] ++ (Bytes.ofWord 4 1 ++
        (Bytes.ofWord 4 0 ++ [Kind.string.typeByte .w32]))).toArray, {}⟩) := by
  have huniform : Slot.uniform? [.reference .string .w32 4] = none := rfl
  have hlist : Writer.listWidth 0xffffffff [.uint 1, .reference .string .w32 4] = .w32 := rfl
  have hpad : Writer.pad .w32 bytes.toArray = (bytes ++ [0]).toArray := by
    rw [pad_toArray, h]
    rfl
  have hlength : (bytes ++ [0] ++ Bytes.ofWord Width.w32.bytes 1).length = 0x100000004 := by
    rw [List.length_append, List.length_append, Bytes.length_ofWord, h]
    rfl
  -- Four bytes hold nothing of a distance of `2 ^ 32`.
  have hlost : Bytes.ofWord Width.w32.bytes (0x100000004 - 4) = Bytes.ofWord 4 0 := by decide
  simp only [Writer.putVector, huniform, Writer.putList, List.size_toArray, h,
    List.length_singleton, List.singleton_append, hlist, hpad, putSlots_single, putTypes_single,
    Slot.word, hlength, hlost, if_true]
  simp only [List.append_assoc]
  rfl

theorem finish_limit {bytes : List UInt8} (h : bytes.length = 0x100000009) :
    Writer.finish ⟨bytes.toArray, {}⟩ (.reference .vector .w32 0x100000004) =
      (bytes ++ (Bytes.ofWord 1 5 ++ [Kind.vector.typeByte .w32, 1])).toArray := by
  have hwidth : (Slot.reference .vector .w32 0x100000004).width 0x100000009 0 = .w8 := rfl
  have hpad : Writer.pad .w8 bytes.toArray = bytes.toArray := by
    rw [pad_toArray, h]
    exact congrArg List.toArray (List.append_nil bytes)
  simp only [Writer.finish, List.size_toArray, h, hwidth, hpad, putSlots_single, putTypes_single,
    Slot.word, List.push_toArray, List.append_assoc]
  rfl

/-- The buffer of the list is one in which the text stands at no distance from its slot. -/
theorem toBytes_limit (h : (Bytes.ofText s).size = limit) :
    (Tree.vector [.string s]).toBytes =
      (limitFront s ++ [0, 0] ++ singleEnd .w32 .w32 0).toArray := by
  have hfront : (limitFront s ++ [0]).length = 0xffffffff := by
    rw [List.length_append, length_limitFront h]
    rfl
  have hput : Writer.put (.vector [.string s]) {} =
      Writer.putVector ⟨(limitFront s ++ [0]).toArray, {}⟩ [.reference .string .w32 4] := by
    simp only [Writer.put, Writer.putItems, putString_limit h]
    rfl
  rw [Tree.toBytes, hput, putVector_limit hfront]
  refine (finish_limit ?_).trans (congrArg List.toArray ?_)
  · rw [List.length_append, List.length_append, hfront]
    rfl
  · simp only [List.append_assoc]
    rfl

theorem size_toBytes_limit (h : (Bytes.ofText s).size = limit) :
    (Tree.vector [.string s]).toBytes.size = 0x10000000c := by
  rw [toBytes_limit h, List.size_toArray, List.length_append, List.length_append,
    length_limitFront h]
  rfl

/-- At no distance the text is read from its own slot: its length is the number of items, and its
one byte is zero. -/
theorem text_of_no_distance (front : List UInt8) :
    Item.text (front ++ singleEnd .w32 child 0).toArray
      ⟨.string, .w32, front.length + Width.w32.bytes⟩ = "\x00" := by
  have hcount : Stands (front ++ singleEnd .w32 child 0).toArray front.length
    (singleEnd .w32 child 0) := stands_singleEnd
  generalize (front ++ singleEnd .w32 child 0).toArray = bytes at hcount ⊢
  have hlength : Item.length bytes ⟨.string, .w32, front.length + Width.w32.bytes⟩ = 1 := by
    simp only [Item.length]
    rw [if_neg (Nat.not_lt.mpr (Nat.le_add_left ..)), Nat.add_sub_cancel]
    exact Bytes.wordAt_eq hcount.left (by decide) (by decide)
  have hzero : Stands bytes (front.length + Width.w32.bytes) [0] := by
    have hslot := hcount.right.left
    exact @Stands.left bytes _ [0] [0, 0, 0] hslot
  have hstop : front.length + Width.w32.bytes + 1 ≤ bytes.size := hzero.stop_le (by decide)
  have hextract : bytes.extract (front.length + Width.w32.bytes)
      (front.length + Width.w32.bytes + 1) = Bytes.ofText "\x00" := hzero.extract
  simp only [Item.text, Item.content?, hlength]
  rw [if_pos hstop, hextract, Option.bind_some, Bytes.toText?_ofText, Option.getD_some]

theorem toJson_toBytes_limit (h : (Bytes.ofText s).size = limit) :
    toJson (Tree.vector [.string s]).toBytes = .ok (.array [.string "\x00"]) := by
  rw [toBytes_limit h, endsWithSingle.toJson_eq (by decide) (Nat.zero_le _), Nat.sub_zero,
    text_of_no_distance]

/-! ## 3. The same list in wider slots -/

def limitInWideSlots (s : String) : Bytes :=
  (limitFront s ++ singleEnd .w64 .w32 (8 + limit)).toArray

theorem toJson_limitInWideSlots (h : (Bytes.ofText s).size = limit) :
    toJson (limitInWideSlots s) = .ok (.array [.string s]) := by
  have hfront := length_limitFront h
  have hwidth : Width.ofWord limit = .w32 := rfl
  have hstands : Stands (limitInWideSlots s) 0 (Bytes.ofWord (Width.ofWord limit).bytes limit ++
      ((Bytes.ofText s).toList ++ singleEnd .w64 .w32 (8 + limit))) := by
    rw [Stands, limitInWideSlots, limitFront, List.append_assoc]
    exact List.prefix_refl _
  have htext : Item.text (limitInWideSlots s) ⟨.string, .w32, 4⟩ = s := by
    have hread := @Item.text_eq (limitInWideSlots s) s .string 0
      (singleEnd .w64 .w32 (8 + limit)) (by rw [h]; decide) (by rw [h]; exact hstands)
    rw [h, hwidth] at hread
    exact hread
  have hback : 8 + limit ≤ (limitFront s).length + Width.w64.bytes := by
    rw [hfront]
    decide
  have hplace : (limitFront s).length + Width.w64.bytes - (8 + limit) = 4 := by
    rw [hfront]
    rfl
  have hread := (@endsWithSingle (limitFront s) .w64 .w32 (8 + limit)).toJson_eq (by decide) hback
  rw [hplace] at hread
  exact hread.trans (by rw [← limitInWideSlots, htext])

/-! ## 4. A text at the limit -/

def limitText : String := String.ofList (List.replicate limit 'a')

theorem size_ofText_limitText : (Bytes.ofText limitText).size = limit := by
  have hascii : ∀ c ∈ limitText.toList, c.toNat < 0x80 := by
    intro c hc
    rw [limitText, String.toList_ofList] at hc
    rw [List.eq_of_mem_replicate hc]
    decide
  rw [← Array.length_toList, toList_ofText_ascii hascii, List.length_map, limitText,
    String.toList_ofList, List.length_replicate]

theorem limitText_ne : limitText ≠ "\x00" := by
  intro heq
  have hsize := size_ofText_limitText
  rw [heq] at hsize
  exact absurd hsize (by decide)

end JobDesk.Flexbuffer
