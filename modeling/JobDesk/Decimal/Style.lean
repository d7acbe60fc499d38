import JobDesk.Decimal.Shortest

/-!
# Decimal style — where a number's text has its point

A style says between which places of the point a decimal is written out in full; beyond them it is
written with one digit before the point and a signed power of ten.  Numbers always show that they
are no integers: a whole one ends in `.0`.
-/

namespace JobDesk.Decimal

/-- A style of writing decimals.  The place of the point is counted from the first digit: a decimal
is written out when its place lies above `lowest` and is at most `highest`. -/
structure Style where
  lowest : Option Int
  highest : Option Int

namespace Style

def writesOut (style : Style) (place : Int) : Bool :=
  style.lowest.all (· < place) && style.highest.all (place ≤ ·)

def full : Style := ⟨none, none⟩

/-- Doubles in data: written out from `0.00001` up to sixteen digits before the point. -/
def double : Style := ⟨some (-5), some 16⟩

/-- Single-precision numbers in data: written out from `0.000001` up to thirteen digits before the
point. -/
def single : Style := ⟨some (-6), some 13⟩

end Style

def zeros (count : Int) : String :=
  String.ofList (List.replicate count.toNat '0')

def Digits.text (d : Digits) (style : Style) : String :=
  let digits := Nat.toDigits 10 d.digits
  let count : Int := digits.length
  let place := count + d.exponent
  if style.writesOut place then
    if 0 ≤ d.exponent then String.ofList digits ++ zeros d.exponent ++ ".0"
    else if 0 < place then
      String.ofList (digits.take place.toNat) ++ "." ++ String.ofList (digits.drop place.toNat)
    else "0." ++ zeros (-place) ++ String.ofList digits
  else
    let tail := digits.drop 1
    String.ofList (digits.take 1) ++ (if tail.isEmpty then "" else "." ++ String.ofList tail)
      ++ (if 0 < place then "e+" else "e-") ++ String.ofList (Nat.toDigits 10 (place - 1).natAbs)

def text (style : Style) (x : Binary64) : String :=
  let sign := if x.isNegative then "-" else ""
  if x.significand = 0 then sign ++ "0.0"
  else sign ++ (shortest (.ofBinary64 x)).text style

def text32 (style : Style) (word : UInt32) : String :=
  let sign := if 0x80000000 ≤ word.toNat then "-" else ""
  let target := Target.ofBinary32 word
  if target.significand = 0 then sign ++ "0.0"
  else sign ++ (shortest target).text style

end JobDesk.Decimal
