import JobDesk.Bytes

/-!
# Width — how many bytes a number takes

Numbers in a buffer take one, two, four or eight bytes.  `Width.ofWord` and `Width.ofSigned` choose
the smallest width that holds a number, and the lemmas say that it does hold it.
-/

namespace JobDesk.Flexbuffer

inductive Width where
  | w8 | w16 | w32 | w64
  deriving DecidableEq, Inhabited, Repr

namespace Width

def all : List Width := [w8, w16, w32, w64]

def bytes : Width → Nat
  | w8 => 1
  | w16 => 2
  | w32 => 4
  | w64 => 8

def code : Width → Nat
  | w8 => 0
  | w16 => 1
  | w32 => 2
  | w64 => 3

def ofCode (code : Nat) : Width :=
  match code % 4 with
  | 0 => w8
  | 1 => w16
  | 2 => w32
  | _ => w64

def ofBytes? : Nat → Option Width
  | 1 => some w8
  | 2 => some w16
  | 4 => some w32
  | 8 => some w64
  | _ => none

def ofWord (n : Nat) : Width :=
  if n < 0x100 then w8 else if n < 0x10000 then w16 else if n < 0x100000000 then w32 else w64

def ofSigned (n : Int) : Width :=
  if -0x80 ≤ n ∧ n < 0x80 then w8
  else if -0x8000 ≤ n ∧ n < 0x8000 then w16
  else if -0x80000000 ≤ n ∧ n < 0x80000000 then w32
  else w64

def max (a b : Width) : Width :=
  if a.code < b.code then b else a

@[simp] theorem ofBytes?_bytes (w : Width) : ofBytes? w.bytes = some w := by
  cases w <;> rfl

theorem lt_of_ofWord {n : Nat} (h : n < 0x10000000000000000) :
    n < Bytes.wordCount (ofWord n).bytes := by
  unfold ofWord
  split
  · simpa [bytes, Bytes.wordCount]
  split
  · simpa [bytes, Bytes.wordCount]
  split
  · simpa [bytes, Bytes.wordCount]
  · simpa [bytes, Bytes.wordCount] using h

end Width

end JobDesk.Flexbuffer
