import JobDesk.Text.Radix

/-!
# Short addresses — hosts named by four bytes

An address is written as numbers that points divide, up to four of them.  The last one stands for
all bytes that the others leave open.  A number that begins with `0x` is hexadecimal, any other one
that begins with zero is octal.
-/

namespace JobDesk.Http

structure Address4 where
  bits : Nat
  deriving DecidableEq, Inhabited

namespace Address4

def readNumber? : List Char → Option Nat
  | [] => none
  | ['0'] => some 0
  | '0' :: 'x' :: digits | '0' :: 'X' :: digits => Text.readRadix? 16 digits
  | '0' :: digits => Text.readRadix? 8 digits
  | digits => Text.readRadix? 10 digits

def parts (text : List Char) : List (List Char) :=
  let parts := text.splitOn '.'
  if parts.getLast? = some [] then parts.dropLast else parts

/-- Whether a text is meant as an address: its last part is a number, or has digits only. -/
def isMeant (text : List Char) : Bool :=
  (parts text).getLast?.any fun part =>
    (!part.isEmpty && part.all Text.isDigit) || (readNumber? part).isSome

def join? : (bytesLeft : Nat) → List Nat → Option Nat
  | _, [] => none
  | bytesLeft, [last] => if last < Nat.pow 256 bytesLeft then some last else none
  | bytesLeft, first :: rest =>
    if first < 256 ∧ 1 < bytesLeft then
      (join? (bytesLeft - 1) rest).map (first * Nat.pow 256 (bytesLeft - 1) + ·)
    else none

def read? (text : List Char) : Option Address4 :=
  (((parts text).mapM readNumber?).bind (join? 4)).map Address4.mk

def text (address : Address4) : String :=
  let byte (place : Nat) : String := toString (address.bits / place % 256)
  s!"{byte 0x1000000}.{byte 0x10000}.{byte 0x100}.{byte 1}"

end Address4

end JobDesk.Http
