import JobDesk.Binary64

/-!
# Shortest decimals — the fewest digits that read back

The decimals that round to a binary number fill an interval around it; its ends belong to it when
the significand is even.  On each decimal grid, coarsest first, only the two neighbours of the exact
value can lie in that interval, so testing those two finds the fewest digits.  Of two hits the
nearer wins, and of two equally near the one with the even last digit.
-/

namespace JobDesk.Decimal

structure Digits where
  digits : Nat
  exponent : Int
  deriving DecidableEq

/-- A positive binary number `significand · 2 ^ scale` with the widths of its rounding interval in
quarters of `2 ^ scale`: two above it, two or one below it. -/
structure Target where
  significand : Nat
  scale : Int
  below : Nat := 2

namespace Target

/-- The value as a ratio of quarters: `quarters / unit` is the number. -/
def ratio (t : Target) (quarters : Nat) : Nat × Nat :=
  Binary64.shiftRatio quarters 4 t.scale

def covers (t : Target) (num den : Nat) : Bool :=
  let (low, unit) := t.ratio (4 * t.significand - t.below)
  let (high, _) := t.ratio (4 * t.significand + 2)
  if t.significand % 2 = 0 then low * den ≤ num * unit && num * unit ≤ high * den
  else low * den < num * unit && num * unit < high * den

end Target

def shiftTen (num den : Nat) (power : Int) : Nat × Nat :=
  if 0 ≤ power then (num * Nat.pow 10 power.toNat, den) else (num, den * Nat.pow 10 (-power).toNat)

/-- The exponent of the largest power of ten that is at most `num / den`, looked for upwards from
`guess` in `steps` steps. -/
def log10From (num den : Nat) : (steps : Nat) → (guess : Int) → Int
  | 0, guess => guess
  | steps + 1, guess =>
    let (a, b) := shiftTen num den (-(guess + 1))
    if a < b then guess else log10From num den steps (guess + 1)

/-- The exponent of the largest power of ten that is at most `num / den`, for a positive ratio. -/
def log10Ratio (num den : Nat) : Int :=
  log10From num den 4 (Int.fdiv (Binary64.log2Ratio num den * 30103) 100000 - 1)

def stripZeros : (fuel : Nat) → (digits : Nat) → (exponent : Int) → Digits
  | 0, digits, exponent => ⟨digits, exponent⟩
  | fuel + 1, digits, exponent =>
    if digits ≠ 0 ∧ digits % 10 = 0 then stripZeros fuel (digits / 10) (exponent + 1)
    else ⟨digits, exponent⟩

/-- The nearer of the two neighbours of the target on the grid of multiples of `10 ^ exponent`, if
one of them rounds to the target. -/
def onGrid? (t : Target) (exponent : Int) : Option Nat :=
  let (num, den) := t.ratio (4 * t.significand)
  let (a, b) := shiftTen num den (-exponent)
  let lower := a / b
  let hits (digits : Nat) : Bool :=
    let (p, q) := shiftTen digits 1 exponent
    t.covers p q
  let twice := 2 * (a % b)
  -- Zero reads back as nothing but zero, so it is no hit.
  match decide (lower ≠ 0) && hits lower, hits (lower + 1) with
  | true, true =>
    some (if twice < b ∨ (twice = b ∧ lower % 2 = 0) then lower else lower + 1)
  | true, false => some lower
  | false, true => some (lower + 1)
  | false, false => none

/-- The shortest decimal that rounds to the target: grids are tried from `count` digits on. -/
def shortestFrom (t : Target) (top : Int) : (fuel : Nat) → (count : Nat) → Digits
  | 0, count =>
    let (num, den) := t.ratio (4 * t.significand)
    let (a, b) := shiftTen num den (count - top)
    stripZeros 20 (a / b) (top - count)
  | fuel + 1, count =>
    match onGrid? t (top - count) with
    | some digits => stripZeros 20 digits (top - count)
    | none => shortestFrom t top fuel (count + 1)

def shortest (t : Target) : Digits :=
  let (num, den) := t.ratio (4 * t.significand)
  shortestFrom t (log10Ratio num den) 17 0

def Target.ofBinary64 (x : Binary64) : Target :=
  { significand := x.significand
    scale := x.scale
    below := if x.fractionField = 0 ∧ 1 < x.exponentField then 1 else 2 }

def Target.ofBinary32 (word : UInt32) : Target :=
  let exponent := word.toNat / 0x800000 % 0x100
  let fraction := word.toNat % 0x800000
  { significand := if exponent = 0 then fraction else 0x800000 + fraction
    scale := (max exponent 1 : Nat) - 150
    below := if fraction = 0 ∧ 1 < exponent then 1 else 2 }

end JobDesk.Decimal
