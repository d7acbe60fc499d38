import JobDesk.Binary64

/-!
# Span — lengths of time

A span is a whole number of nanoseconds.  It is written in the largest of seconds, milliseconds,
microseconds and nanoseconds in which it is at least one, with the decimals it needs.
-/

namespace JobDesk

structure Span where
  nanos : Nat
  deriving DecidableEq, Inhabited

namespace Span

def ofSeconds (n : Nat) : Span := ⟨n * 1000000000⟩

def ofMillis (n : Nat) : Span := ⟨n * 1000000⟩

def seconds (s : Span) : Nat := s.nanos / 1000000000

def subsecond (s : Span) : Nat := s.nanos % 1000000000

def millis (s : Span) : Nat := s.nanos / 1000000

/-- The seconds of a span as a double: the whole seconds and the rest are rounded apart, and then
their sum. -/
def asSeconds (s : Span) : Binary64 :=
  .sum (.ofNat s.seconds) (.ofRatio false s.subsecond 1000000000)

def longest : Span := ⟨(0x10000000000000000 - 1) * 1000000000 + 999999999⟩

def thirtyYears : Span := .ofSeconds 946080000

/-- How long a sleep lasts that is asked for with a given span.  The seconds of a point in time are
a signed 64-bit number; a sleep that would end beyond the last one lasts thirty years. -/
def slept (s : Span) : Span :=
  if s.seconds < 0x8000000000000000 then s else thirtyYears

def decimals : (places rest unit : Nat) → List Char
  | 0, _, _ => []
  | places + 1, rest, unit =>
    if rest = 0 then []
    else Char.ofNat (48 + rest * 10 / unit) :: decimals places (rest * 10 % unit) unit

def inUnit (nanos unit : Nat) (name : String) : String :=
  let tail := decimals 9 (nanos % unit) unit
  toString (nanos / unit) ++ (if tail.isEmpty then "" else "." ++ String.ofList tail) ++ name

def text (s : Span) : String :=
  if 1000000000 ≤ s.nanos then inUnit s.nanos 1000000000 "s"
  else if 1000000 ≤ s.nanos then inUnit s.nanos 1000000 "ms"
  else if 1000 ≤ s.nanos then inUnit s.nanos 1000 "µs"
  else inUnit s.nanos 1 "ns"

end Span

end JobDesk
