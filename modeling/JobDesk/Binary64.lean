/-!
# Binary64 — double-precision numbers as words

A double is its 64-bit word.  A finite one stands for `± significand · 2 ^ scale`, and all
arithmetic here is done on that exact value with one rounding at the end, so that nothing depends on
a machine's floating-point unit.  `narrow?` gives the single-precision word of a double that has
one; by its definition, widening that word gives the double back.
-/

namespace JobDesk

structure Binary64 where
  bits : UInt64
  deriving DecidableEq, Inhabited

namespace Binary64

/-! ## 1. Fields of the word -/

def isNegative (x : Binary64) : Bool :=
  0x8000000000000000 ≤ x.bits.toNat

def exponentField (x : Binary64) : Nat :=
  x.bits.toNat / 0x10000000000000 % 0x800

def fractionField (x : Binary64) : Nat :=
  x.bits.toNat % 0x10000000000000

def isFinite (x : Binary64) : Bool :=
  x.exponentField != 2047

def significand (x : Binary64) : Nat :=
  if x.exponentField = 0 then x.fractionField else 0x10000000000000 + x.fractionField

def scale (x : Binary64) : Int :=
  (max x.exponentField 1 : Nat) - 1075

def ofMagnitude (negative : Bool) (magnitude : Nat) : Binary64 :=
  ⟨UInt64.ofNat ((if negative then 0x8000000000000000 else 0) + magnitude)⟩

def infiniteMagnitude : Nat := 2047 * 0x10000000000000

/-! ## 2. Rounding an exact ratio -/

def roundHalfEven (num den : Nat) : Nat :=
  let quotient := num / den
  let twice := 2 * (num % den)
  if twice < den then quotient
  else if den < twice then quotient + 1
  else quotient + quotient % 2

def shiftRatio (num den : Nat) (power : Int) : Nat × Nat :=
  if 0 ≤ power then (num * Nat.pow 2 power.toNat, den) else (num, den * Nat.pow 2 (-power).toNat)

/-- The exponent of the largest power of two that is at most `num / den`, for a positive ratio. -/
def log2Ratio (num den : Nat) : Int :=
  let guess : Int := (num.log2 : Int) - (den.log2 : Int)
  let (a, b) := shiftRatio num den (-guess)
  if a < b then guess - 1 else guess

/-- The double nearest to `± num / den`, the even one of two; an infinity beyond the largest. -/
def ofRatio (negative : Bool) (num den : Nat) : Binary64 :=
  if num = 0 then ofMagnitude negative 0
  else
    let scale := max (log2Ratio num den - 52) (-1074)
    let (a, b) := shiftRatio num den (-scale)
    let magnitude := (scale + 1074).toNat * 0x10000000000000 + roundHalfEven a b
    ofMagnitude negative (min magnitude infiniteMagnitude)

def ofNat (n : Nat) : Binary64 :=
  ofRatio false n 1

def ratio (x : Binary64) : Nat × Nat :=
  shiftRatio x.significand 1 x.scale

def sum (x y : Binary64) : Binary64 :=
  let (a, b) := x.ratio
  let (c, d) := y.ratio
  ofRatio false (a * d + c * b) (b * d)

def mul (x y : Binary64) : Binary64 :=
  let (num, den) := shiftRatio (x.significand * y.significand) 1 (x.scale + y.scale)
  ofRatio (x.isNegative != y.isNegative) num den

def div (x y : Binary64) : Binary64 :=
  let (num, den) := shiftRatio x.significand y.significand (x.scale - y.scale)
  ofRatio (x.isNegative != y.isNegative) num den

def neg (x : Binary64) : Binary64 :=
  ⟨x.bits ^^^ 0x8000000000000000⟩

/-! ## 3. Single precision -/

/-- The double with the value of a single-precision word; a not-a-number keeps its payload and
becomes quiet. -/
def widen (word : UInt32) : Binary64 :=
  let negative : Bool := 0x80000000 ≤ word.toNat
  let exponent := word.toNat / 0x800000 % 0x100
  let fraction := word.toNat % 0x800000
  if exponent = 255 then
    ofMagnitude negative
      (infiniteMagnitude + if fraction = 0 then 0 else 0x8000000000000 ||| (fraction * 0x20000000))
  else if exponent = 0 then
    let (num, den) := shiftRatio fraction 1 (-149)
    ofRatio negative num den
  else
    ofMagnitude negative ((exponent + 896) * 0x10000000000000 + fraction * 0x20000000)

def narrowCandidate (x : Binary64) : UInt32 :=
  let sign := if x.isNegative then 0x80000000 else 0
  let exponent := x.exponentField
  if exponent = 2047 then UInt32.ofNat (sign + 255 * 0x800000)
  else if 897 ≤ exponent then
    UInt32.ofNat (sign + (exponent - 896) * 0x800000 + x.fractionField / 0x20000000)
  else
    UInt32.ofNat (sign + x.significand / Nat.pow 2 (926 - exponent))

def narrow? (x : Binary64) : Option UInt32 :=
  if widen x.narrowCandidate = x then some x.narrowCandidate else none

theorem widen_of_narrow? {x : Binary64} {word : UInt32} (h : x.narrow? = some word) :
    widen word = x := by
  unfold narrow? at h
  split at h
  · simp_all
  · simp at h

end Binary64

end JobDesk
