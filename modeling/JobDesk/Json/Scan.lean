import JobDesk.Json.Basic
import JobDesk.Mismatch
import JobDesk.Text.Decimal

/-!
# Json scanning — the tokens of JSON text

A scanner takes the characters still to be read and gives a token and the characters after it.  Text
that is no JSON is malformed; text that is JSON of another shape than was asked for is a mismatch
and says so.  Strings and numbers are scanned here; blanks are space, tab, line feed and carriage
return.
-/

namespace JobDesk.Json

inductive Fault where
  | malformed
  | mismatch (cause : Mismatch)
  deriving DecidableEq, Inhabited

/-- A scanner: from the characters still to be read, a token and the characters after it. -/
abbrev Scanner (α : Type) := List Char → Except Fault (α × List Char)

/-! ## 1. Blanks and words -/

def isBlank (c : Char) : Bool :=
  c == ' ' || c == '\t' || c == '\n' || c == '\r'

def skipBlanks (text : List Char) : List Char :=
  text.dropWhile isBlank

def scanWord : List Char → Scanner Unit
  | [], text => .ok ((), text)
  | _ :: _, [] => .error .malformed
  | c :: word, d :: text => if c = d then scanWord word text else .error .malformed

def scanEnd (text : List Char) : Except Fault Unit :=
  if (skipBlanks text).isEmpty then .ok () else .error .malformed

/-! ## 2. Strings -/

def hexDigit? (c : Char) : Option Nat :=
  if '0' ≤ c ∧ c ≤ '9' then some (c.toNat - 48)
  else if 'a' ≤ c ∧ c ≤ 'f' then some (c.toNat - 87)
  else if 'A' ≤ c ∧ c ≤ 'F' then some (c.toNat - 55)
  else none

def hexUnit? (a b c d : Char) : Option Nat := do
  return ((← hexDigit? a) * 16 + (← hexDigit? b)) * 256 + ((← hexDigit? c) * 16 + (← hexDigit? d))

def isHighHalf (unit : Nat) : Bool := 0xD800 ≤ unit && unit < 0xDC00

def isLowHalf (unit : Nat) : Bool := 0xDC00 ≤ unit && unit < 0xE000

def letterEscape? : Char → Option Char
  | '"' => some '"'
  | '\\' => some '\\'
  | '/' => some '/'
  | 'b' => some '\x08'
  | 'f' => some '\x0c'
  | 'n' => some '\n'
  | 'r' => some '\r'
  | 't' => some '\t'
  | _ => none

/-- The rest of a string after its opening quote; `read` is what stood before. -/
def scanStringFrom (read : String) : Scanner String
  | [] => .error .malformed
  | '"' :: text => .ok (read, text)
  | '\\' :: 'u' :: a :: b :: c :: d :: text =>
    match hexUnit? a b c d with
    | none => .error .malformed
    | some unit =>
      if isLowHalf unit then .error .malformed
      else if isHighHalf unit then
        match text with
        -- The first half of a pair must be followed by the second.
        | '\\' :: 'u' :: e :: f :: g :: h :: text =>
          match hexUnit? e f g h with
          | none => .error .malformed
          | some second =>
            if isLowHalf second then
              scanStringFrom
                (read.push (Char.ofNat (0x10000 + (unit - 0xD800) * 1024 + (second - 0xDC00)))) text
            else .error .malformed
        | _ => .error .malformed
      else scanStringFrom (read.push (Char.ofNat unit)) text
  | '\\' :: c :: text =>
    match letterEscape? c with
    | some escaped => scanStringFrom (read.push escaped) text
    | none => .error .malformed
  | c :: text =>
    if c = '\\' ∨ c.toNat < 32 then .error .malformed else scanStringFrom (read.push c) text

def scanString : Scanner String
  | '"' :: text => scanStringFrom "" text
  | _ => .error .malformed

/-- The rest of a string that nobody looks at: halves of pairs may stand alone in it. -/
def skipStringFrom : List Char → Except Fault (List Char)
  | [] => .error .malformed
  | '"' :: text => .ok text
  | '\\' :: 'u' :: a :: b :: c :: d :: text =>
    if (hexUnit? a b c d).isSome then skipStringFrom text else .error .malformed
  | '\\' :: c :: text =>
    if (letterEscape? c).isSome then skipStringFrom text else .error .malformed
  | c :: text =>
    if c = '\\' ∨ c.toNat < 32 then .error .malformed else skipStringFrom text

/-! ## 3. Numbers -/

/-- The written form of a number: digits before the point, after it, and the power of ten. -/
structure NumberForm where
  negative : Bool
  whole : List Char
  fraction : Option (List Char)
  exponent : Option (Bool × List Char)

def scanDigits : Scanner (List Char) := fun text =>
  match text.span Text.isDigit with
  | ([], _) => .error .malformed
  | (digits, rest) => .ok (digits, rest)

/-- The digits before the point: one zero, or digits that do not start with zero. -/
def scanWhole : Scanner (List Char)
  | '0' :: text =>
    if (text.head?.map Text.isDigit).getD false then .error .malformed else .ok (['0'], text)
  | text => scanDigits text

def scanFraction : Scanner (Option (List Char))
  | '.' :: text => (scanDigits text).map fun (digits, rest) => (some digits, rest)
  | text => .ok (none, text)

def scanExponent : Scanner (Option (Bool × List Char))
  | c :: text =>
    if c = 'e' ∨ c = 'E' then
      match text with
      | '-' :: text => (scanDigits text).map fun (digits, rest) => (some (true, digits), rest)
      | '+' :: text => (scanDigits text).map fun (digits, rest) => (some (false, digits), rest)
      | text => (scanDigits text).map fun (digits, rest) => (some (false, digits), rest)
    else .ok (none, c :: text)
  | [] => .ok (none, [])

def scanNumberForm (text : List Char) : Except Fault (NumberForm × List Char) := do
  let negative := text.head? == some '-'
  let (whole, text) ← scanWhole (if negative then text.drop 1 else text)
  let (fraction, text) ← scanFraction text
  let (exponent, text) ← scanExponent text
  return (⟨negative, whole, fraction, exponent⟩, text)

/-- A significand of at most 64 bits being read digit by digit, and its power of ten.  Digits of the
whole part that no longer fit raise the power, digits of the fraction that no longer fit are
dropped. -/
structure Significand where
  value : Nat
  power : Int
  isFull : Bool

namespace Significand

def fits (s : Significand) (digit : Char) : Bool :=
  !s.isFull && s.value * 10 + Text.digitValue digit < 0x10000000000000000

def whole (s : Significand) (digit : Char) : Significand :=
  if s.fits digit then { s with value := s.value * 10 + Text.digitValue digit }
  else { s with power := s.power + 1, isFull := true }

def fraction (s : Significand) (digit : Char) : Significand :=
  if s.fits digit then
    { s with value := s.value * 10 + Text.digitValue digit, power := s.power - 1 }
  else { s with isFull := true }

end Significand

def powerOfTen (exponent : Nat) : Binary64 :=
  Binary64.ofNat (Nat.pow 10 exponent)

/-- A double times a power of ten, rounded after each step; steps below `10 ^ -308` are taken in
parts.  `none` when the result is too large. -/
def timesPowerOfTen : (steps : Nat) → Binary64 → Int → Option Binary64
  | 0, x, _ => some x
  | steps + 1, x, power =>
    if power.natAbs ≤ 308 then
      if 0 ≤ power then
        let product := x.mul (powerOfTen power.toNat)
        if product.isFinite then some product else none
      else some (x.div (powerOfTen (-power).toNat))
    else if x.significand = 0 then some x
    else if 0 ≤ power then none
    else timesPowerOfTen steps (x.div (powerOfTen 308)) (power + 308)

def maxExponent : Nat := 0x80000000 - 1

/-- The number that an exponent's digits denote, or one above `maxExponent` if it is larger. -/
def exponentValue (digits : List Char) : Nat :=
  digits.foldl (fun n c => min (n * 10 + Text.digitValue c) (maxExponent + 1)) 0

namespace NumberForm

def significand (form : NumberForm) : Significand :=
  let whole := form.whole.foldl Significand.whole ⟨0, 0, false⟩
  (form.fraction.getD []).foldl Significand.fraction { whole with isFull := false }

/-- The double that the form stands for, without its sign; `none` when it is too large. -/
def magnitude? (form : NumberForm) : Option Binary64 :=
  let s := form.significand
  match form.exponent with
  | none => timesPowerOfTen 4 (.ofNat s.value) s.power
  | some (negative, digits) =>
    let exponent : Int := exponentValue digits
    if maxExponent < exponent then
      if s.value ≠ 0 ∧ negative = false then none else some (.ofNat 0)
    else timesPowerOfTen 4 (.ofNat s.value) (s.power + if negative then -exponent else exponent)

/-- The exact integer that the form stands for, if it is written as one that JSON holds exactly; the
integer zero has no sign, so `-0` is a double. -/
def integer? (form : NumberForm) : Option JsonInteger :=
  match form.fraction, form.exponent with
  | none, none =>
    let s := form.significand
    if s.power ≠ 0 ∨ (form.negative ∧ s.value = 0) then none
    else
      let n : Int := if form.negative then -s.value else s.value
      if h : -0x8000000000000000 ≤ n ∧ n < 0x10000000000000000 then some ⟨n, h⟩ else none
  | _, _ => none

/-- The JSON number that the form stands for; `none` when it is too large for a double. -/
def value? (form : NumberForm) : Option Json :=
  match form.integer? with
  | some n => some (.integer n)
  | none =>
    form.magnitude?.map fun x => ofDouble (if form.negative then x.neg else x)

end NumberForm

def scanNumber (text : List Char) : Except Fault (Json × List Char) := do
  let (form, text) ← scanNumberForm text
  match form.value? with
  | some value => return (value, text)
  | none => throw .malformed

end JobDesk.Json
