/-!
# Decimal integers — a sign and digits

A written integer is a plus sign, or a minus sign where negative numbers are allowed, or no sign,
and then one ASCII digit or more.  `readInt?` and `readNat?` accept it if its value lies in a given
range.
-/

namespace JobDesk.Text

def isDigit (c : Char) : Bool := '0' ≤ c && c ≤ '9'

def digitValue (c : Char) : Nat := c.toNat - 48

def digitsValue (digits : List Char) : Nat :=
  digits.foldl (fun n c => 10 * n + digitValue c) 0

def readDigits? (cs : List Char) : Option Nat :=
  if cs.isEmpty || !cs.all isDigit then none else some (digitsValue cs)

def readUnsigned? : List Char → Option Nat
  | '+' :: cs => readDigits? cs
  | cs => readDigits? cs

def readSigned? : List Char → Option Int
  | '-' :: cs => (readDigits? cs).map fun n => -n
  | cs => (readUnsigned? cs).map fun n => n

def readNat? (limit : Nat) (cs : List Char) : Option Nat :=
  (readUnsigned? cs).filter (· < limit)

def readInt16? (cs : List Char) : Option Int16 :=
  ((readSigned? cs).filter fun n => -0x8000 ≤ n && n < 0x8000).map Int16.ofInt

def readInt64? (cs : List Char) : Option Int64 :=
  let isInRange (n : Int) : Bool := -0x8000000000000000 ≤ n && n < 0x8000000000000000
  ((readSigned? cs).filter isInRange).map Int64.ofInt

end JobDesk.Text
