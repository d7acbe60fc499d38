import JobDesk.Bytes

/-!
# Checksums — numbers by which changed bytes are found

One checksum is the remainder of a division of polynomials over bits.  Another one is made of the
sum of all bytes and the sum of those sums.  The third one multiplies and rotates words of 64 bits.
-/

namespace JobDesk.Compression.Checksum

/-! ## 1. Remainder -/

def shift (remainder : UInt32) : UInt32 :=
  if remainder % 2 = 1 then (remainder >>> 1) ^^^ 0xedb88320 else remainder >>> 1

def shiftBy : Nat → UInt32 → UInt32
  | 0, remainder => remainder
  | count + 1, remainder => shiftBy count (shift remainder)

def remainders : Array UInt32 := (Array.range 256).map fun b => shiftBy 8 (UInt32.ofNat b)

def remainder (bytes : Bytes) : Nat :=
  let step (made : UInt32) (b : UInt8) : UInt32 :=
    remainders.getD (made.toUInt8 ^^^ b).toNat 0 ^^^ (made >>> 8)
  (bytes.foldl step 0xffffffff ^^^ 0xffffffff).toNat

/-! ## 2. Sums -/

def divisor : Nat := 65521

def sums (bytes : Bytes) : Nat :=
  let step (made : Nat × Nat) (b : UInt8) : Nat × Nat :=
    let sum := (made.1 + b.toNat) % divisor
    (sum, (made.2 + sum) % divisor)
  let (sum, sumOfSums) := bytes.foldl step (1, 0)
  65536 * sumOfSums + sum

/-! ## 3. Mixed words -/

/-- The first of the numbers by which words are mixed: large odd numbers without a pattern. -/
def factorA : UInt64 := 0x9e3779b185ebca87

def factorB : UInt64 := 0xc2b2ae3d27d4eb4f

def factorC : UInt64 := 0x165667b19e3779f9

def factorD : UInt64 := 0x85ebca77c2b2ae63

def factorE : UInt64 := 0x27d4eb2f165667c5

def rotate (word count : UInt64) : UInt64 := (word <<< count) ||| (word >>> (64 - count))

def mixWord (lane word : UInt64) : UInt64 := rotate (lane + word * factorB) 31 * factorA

def word (bytes : Bytes) (place size : Nat) : UInt64 := UInt64.ofNat (bytes.wordAt place size)

def mixLanes (bytes : Bytes) : (rounds place : Nat) → (a b c d : UInt64) →
    UInt64 × UInt64 × UInt64 × UInt64
  | 0, _, a, b, c, d => (a, b, c, d)
  | rounds + 1, place, a, b, c, d =>
    mixLanes bytes rounds (place + 32) (mixWord a (word bytes place 8))
      (mixWord b (word bytes (place + 8) 8)) (mixWord c (word bytes (place + 16) 8))
      (mixWord d (word bytes (place + 24) 8))

def joinLanes (bytes : Bytes) : UInt64 :=
  if bytes.size < 32 then factorE
  else
    let (a, b, c, d) :=
      mixLanes bytes (bytes.size / 32) 0 (factorA + factorB) factorB 0 (0 - factorA)
    let joined := rotate a 1 + rotate b 7 + rotate c 12 + rotate d 18
    [a, b, c, d].foldl (fun made lane => (made ^^^ mixWord 0 lane) * factorA + factorD) joined

def mixRest (bytes : Bytes) : (rounds place : Nat) → UInt64 → UInt64
  | 0, _, made => made
  | rounds + 1, place, made =>
    mixRest bytes rounds (place + 8)
      (rotate (made ^^^ mixWord 0 (word bytes place 8)) 27 * factorA + factorD)

def mixed (bytes : Bytes) : UInt64 :=
  let start := joinLanes bytes + UInt64.ofNat bytes.size
  let made := mixRest bytes (bytes.size % 32 / 8) (bytes.size / 32 * 32) start
  let place := bytes.size / 8 * 8
  let hasHalf := 4 ≤ bytes.size % 8
  let made := if hasHalf then
      rotate (made ^^^ word bytes place 4 * factorA) 23 * factorB + factorC else made
  let rest := bytes.extract (if hasHalf then place + 4 else place) bytes.size
  let made := rest.foldl (fun made b => rotate (made ^^^ b.toUInt64 * factorE) 11 * factorA) made
  let made := (made ^^^ (made >>> 33)) * factorB
  let made := (made ^^^ (made >>> 29)) * factorC
  made ^^^ (made >>> 32)

end JobDesk.Compression.Checksum
