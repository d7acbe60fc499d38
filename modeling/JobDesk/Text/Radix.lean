import JobDesk.Text.Decimal

/-!
# Radixes — numbers whose digits are digits and letters

A letter, capital or not, is a digit of a value from ten on.
-/

namespace JobDesk.Text

def digitOrLetter? (c : Char) : Option Nat :=
  if isDigit c then some (digitValue c)
  else if 'a' ≤ c && c ≤ 'z' then some (c.toNat - 0x61 + 10)
  else if 'A' ≤ c && c ≤ 'Z' then some (c.toNat - 0x41 + 10)
  else none

/-- The number that digits of a radix stand for; no digit at all stands for zero. -/
def readRadix? (radix : Nat) (digits : List Char) : Option Nat :=
  digits.foldlM
    (fun number c =>
      ((digitOrLetter? c).filter (· < radix)).map fun digit => radix * number + digit)
    0

end JobDesk.Text
