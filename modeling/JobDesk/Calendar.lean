/-!
# Calendar — points in time and how they are written

A point in time is a count of seconds since the first of January 1970 and a fraction of a second.
The fraction may reach two seconds in the last second of a minute, where a leap second stands.  Days
are counted by the Gregorian calendar, which repeats every 400 years.
-/

namespace JobDesk

structure Moment where
  seconds : Int
  nanos : Nat
  deriving DecidableEq, Inhabited

structure Date where
  year : Int
  month : Nat
  day : Nat
  deriving DecidableEq

namespace Date

/-- The date of a day, counted from the first of January 1970.

Days are counted from the first of March of year zero, so that a leap day ends its year; months from
March on have lengths that repeat every five months. -/
def ofDay (day : Int) : Date :=
  let day := day + 719468
  let era := Int.fdiv day 146097
  let ofEra := (day - era * 146097).toNat
  let yearOfEra := (ofEra - ofEra / 1460 + ofEra / 36524 - ofEra / 146096) / 365
  let ofYear := ofEra - (365 * yearOfEra + yearOfEra / 4 - yearOfEra / 100)
  let march := (5 * ofYear + 2) / 153
  -- January and February end the year counted here and begin the next one of the calendar.
  let month := if march < 10 then march + 3 else march - 9
  { year := yearOfEra + era * 400 + if month ≤ 2 then 1 else 0
    month := month
    day := ofYear - (153 * march + 2) / 5 + 1 }

end Date

namespace Moment

def day (t : Moment) : Int := Int.fdiv t.seconds 86400

def secondOfDay (t : Moment) : Nat := (t.seconds - t.day * 86400).toNat

def isYear (year : Int) : Bool := -262143 ≤ year && year ≤ 262142

def of? (seconds : Int) (nanos : Nat) : Option Moment :=
  let t : Moment := ⟨seconds, nanos⟩
  if isYear (Date.ofDay t.day).year
      && (nanos < 1000000000 || (nanos < 2000000000 && t.secondOfDay % 60 == 59)) then some t
  else none

/-- The point in time that is the given number of microseconds after the start of the year 2000. -/
def ofMicros (micros : Int) : Moment :=
  ⟨946684800 + Int.fdiv micros 1000000, (Int.fmod micros 1000000).toNat * 1000⟩

def padded (width n : Nat) : String :=
  let digits := Nat.toDigits 10 n
  String.ofList (List.replicate (width - digits.length) '0' ++ digits)

def yearText (year : Int) : String :=
  if 0 ≤ year ∧ year ≤ 9999 then padded 4 year.toNat
  else (if year < 0 then "-" else "+") ++ padded 4 year.natAbs

/-- A fraction of a second: none, or three, six or nine digits, the fewest that are exact. -/
def fractionText (nanos : Nat) : String :=
  if nanos = 0 then ""
  else if nanos % 1000000 = 0 then "." ++ padded 3 (nanos / 1000000)
  else if nanos % 1000 = 0 then "." ++ padded 6 (nanos / 1000)
  else "." ++ padded 9 nanos

def text (t : Moment) : String :=
  let date := Date.ofDay t.day
  let second := t.secondOfDay % 60 + t.nanos / 1000000000
  yearText date.year ++ "-" ++ padded 2 date.month ++ "-" ++ padded 2 date.day ++ "T"
    ++ padded 2 (t.secondOfDay / 3600) ++ ":" ++ padded 2 (t.secondOfDay / 60 % 60) ++ ":"
    ++ padded 2 second ++ fractionText (t.nanos % 1000000000) ++ "Z"

end Moment

end JobDesk
