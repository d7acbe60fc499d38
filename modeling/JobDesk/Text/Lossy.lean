import JobDesk.Bytes

/-!
# Lossy text — text from bytes of which some are none

Bytes are read as UTF-8.  Where a character cannot go on, the bytes read of it are given up for one
replacement character, and reading goes on with the byte that did not fit.
-/

namespace JobDesk.Text

/-- A character of which some bytes have been read: its bits so far, the number of bytes owed, and
the range of the next one. -/
structure Partial where
  bits : Nat
  owed : Nat
  low : Nat := 0x80
  high : Nat := 0xbf
  deriving DecidableEq, Inhabited

def lead? (b : Nat) : Option Partial :=
  if b < 0xc2 then none
  else if b < 0xe0 then some { bits := b - 0xc0, owed := 1 }
  else if b = 0xe0 then some { bits := 0, owed := 2, low := 0xa0 }
  else if b = 0xed then some { bits := 0xd, owed := 2, high := 0x9f }
  else if b < 0xf0 then some { bits := b - 0xe0, owed := 2 }
  else if b = 0xf0 then some { bits := 0, owed := 3, low := 0x90 }
  else if b < 0xf4 then some { bits := b - 0xf0, owed := 3 }
  else if b = 0xf4 then some { bits := 4, owed := 3, high := 0x8f }
  else none

def replacement : Char := '\ufffd'

structure LossyReader where
  text : String := ""
  pending : Option Partial := none
  deriving Inhabited

namespace LossyReader

def start (text : String) (b : Nat) : LossyReader :=
  if b < 0x80 then { text := text.push (Char.ofNat b) }
  else
    match lead? b with
    | some p => { text := text, pending := some p }
    | none => { text := text.push replacement }

def take (r : LossyReader) (byte : UInt8) : LossyReader :=
  let b := byte.toNat
  match r.pending with
  | none => start r.text b
  | some p =>
    if p.low ≤ b ∧ b ≤ p.high then
      let bits := p.bits * 64 + b % 64
      if p.owed ≤ 1 then { text := r.text.push (Char.ofNat bits) }
      else { r with pending := some { bits := bits, owed := p.owed - 1 } }
    else start (r.text.push replacement) b

def finish (r : LossyReader) : String :=
  if r.pending.isSome then r.text.push replacement else r.text

end LossyReader

def lossy (bytes : List UInt8) : String :=
  (bytes.foldl LossyReader.take {}).finish

end JobDesk.Text
