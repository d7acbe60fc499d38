import JobDesk.Text.Radix

/-!
# Punycode — names of all scripts in letters, digits and hyphens

The ASCII characters of a name are written first, then a hyphen, and then what says where the others
are inserted: in increasing order, each as its distance from the one before.  A distance is a number
with digits from `a` to `z` and `0` to `9`, whose length shows by a threshold for each digit; the
thresholds adapt to the distances that have been met.
-/

namespace JobDesk.Http.Punycode

/-! ## 1. Digits -/

def digit (value : Nat) : Char :=
  Char.ofNat (if value < 26 then 0x61 + value else 0x30 + value - 26)

def value? (c : Char) : Option Nat :=
  (Text.digitOrLetter? c).map fun n => if n < 10 then n + 26 else n - 10

/-- The threshold of a digit; `place` grows by 36 from one digit to the next. -/
def threshold (bias place : Nat) : Nat :=
  if place ≤ bias then 1 else if bias + 26 ≤ place then 26 else place - bias

theorem threshold_pos (bias place : Nat) : 1 ≤ threshold bias place := by
  unfold threshold
  split
  · omega
  · split <;> omega

theorem threshold_le (bias place : Nat) : threshold bias place ≤ 26 := by
  unfold threshold
  split
  · omega
  · split <;> omega

/-- Divides a distance until it is small; each division adds to the bias. -/
def settle (distance bias : Nat) : Nat :=
  if 455 < distance then settle (distance / 35) (bias + 36)
  else bias + 36 * distance / (distance + 38)
termination_by distance
decreasing_by exact Nat.div_lt_self (by omega) (by omega)

/-- The bias after a distance, when so many characters have been inserted or were there. -/
def adapt (distance count : Nat) (isFirst : Bool) : Nat :=
  let distance := distance / if isFirst then 700 else 2
  settle (distance + distance / count) 0

/-! ## 2. Writing -/

def writeDistance (bias place distance : Nat) : List Char :=
  let t := threshold bias place
  if distance < t then [digit distance]
  else
    digit (t + (distance - t) % (36 - t))
      :: writeDistance bias (place + 36) ((distance - t) / (36 - t))
termination_by distance
decreasing_by
  have positive := threshold_pos bias place
  have bounded := threshold_le bias place
  calc (distance - threshold bias place) / (36 - threshold bias place)
      ≤ distance - threshold bias place := Nat.div_le_self _ _
    _ < distance := by omega

structure Writer where
  written : List Char := []
  /-- The places passed since the last insertion. -/
  distance : Nat := 0
  bias : Nat := 72
  count : Nat

/-- Passes one character while those with a given code point are inserted; `plain` is the number of
characters that needed no insertion. -/
def Writer.pass (plain code : Nat) (w : Writer) (c : Char) : Writer :=
  if c.toNat < code then { w with distance := w.distance + 1 }
  else if c.toNat = code then
    { written := w.written ++ writeDistance w.bias 36 w.distance
      distance := 0
      bias := adapt w.distance (w.count + 1) (w.count == plain)
      count := w.count + 1 }
  else w

/-- Inserts the characters with given code points, which increase; `start` is the least code point
that has not been inserted. -/
def Writer.insert (name : List Char) (plain : Nat) :
    Writer → (start : Nat) → List Nat → Writer
  | w, _, [] => w
  | w, start, code :: rest =>
    let w := { w with distance := w.distance + (code - start) * (w.count + 1) }
    let w := name.foldl (Writer.pass plain code) w
    insert name plain { w with distance := w.distance + 1 } (code + 1) rest

def isAscii (c : Char) : Bool := c.toNat < 0x80

def encode (name : List Char) : List Char :=
  let plain := name.filter isAscii
  let codes := ((name.filter (!isAscii ·)).map Char.toNat).mergeSort.eraseDups
  let w := Writer.insert name plain.length { count := plain.length } 0x80 codes
  plain ++ (if plain.isEmpty then [] else ['-']) ++ w.written

/-! ## 3. Reading -/

/-- A distance and what stands behind it; `weight` is that of the next digit. -/
def readDistance? (bias : Nat) :
    (place weight distance : Nat) → List Char → Option (Nat × List Char)
  | _, _, _, [] => none
  | place, weight, distance, c :: rest =>
    match value? c with
    | none => none
    | some value =>
      let distance := distance + value * weight
      if value < threshold bias place then some (distance, rest)
      else readDistance? bias (place + 36) (weight * (36 - threshold bias place)) distance rest

def isCode (n : Nat) : Bool := n < 0xd800 || (0xdfff < n && n < 0x110000)

/-- Inserts what the digits say; `place` is where the next insertion can be, and each round takes a
digit or more. -/
def insertAll? : (rounds bias code place : Nat) → (name digits : List Char) → Option (List Char)
  | _, _, _, _, name, [] => some name
  | 0, _, _, _, _, _ => none
  | rounds + 1, bias, code, place, name, digits =>
    match readDistance? bias 36 1 0 digits with
    | none => none
    | some (distance, digits) =>
      let count := name.length + 1
      let bias := adapt distance count (place == 0)
      let code := code + (place + distance) / count
      let place := (place + distance) % count
      if isCode code then
        insertAll? rounds bias code (place + 1)
          (name.take place ++ Char.ofNat code :: name.drop place) digits
      else none

def splitPlain (text : List Char) : List Char × List Char :=
  match text.reverse.span (· != '-') with
  | (_, []) => ([], text)
  | (digits, _ :: plain) => (plain.reverse, digits.reverse)

def decode? (text : List Char) : Option (List Char) :=
  let (plain, digits) := splitPlain text
  insertAll? digits.length 72 0x80 0 plain digits

end JobDesk.Http.Punycode
