import JobDesk.Text.Radix

/-!
# Long addresses — hosts named by eight groups of sixteen bits

The groups are hexadecimal numbers that colons divide.  Two colons stand, once at most, for as many
groups of zero as are missing.  The last two groups can be written as four bytes that points divide.
-/

namespace JobDesk.Http

structure Address6 where
  groups : List Nat
  deriving DecidableEq, Inhabited

namespace Address6

/-! ## 1. Reading -/

def readGroup? (text : List Char) : Option Nat :=
  if text.isEmpty ∨ 4 < text.length then none else Text.readRadix? 16 text

def readByte? (text : List Char) : Option Nat :=
  if text.head? = some '0' ∧ text ≠ ['0'] then none
  else (Text.readDigits? text).filter (· < 256)

def readBytes? (text : List Char) : Option (List Nat) := do
  match ← (text.splitOn '.').mapM readByte? with
  | [a, b, c, d] => return [256 * a + b, 256 * c + d]
  | _ => none

def readGroups? : List (List Char) → Option (List Nat)
  | [] => some []
  | [last] => if last.contains '.' then readBytes? last else (readGroup? last).map fun g => [g]
  | part :: rest => do return (← readGroup? part) :: (← readGroups? rest)

def splitGap : List Char → Option (List Char × List Char)
  | ':' :: ':' :: rest => some ([], rest)
  | c :: rest => (splitGap rest).map fun (before, behind) => (c :: before, behind)
  | [] => none

def parts (text : List Char) : List (List Char) :=
  if text.isEmpty then [] else text.splitOn ':'

def read? (text : List Char) : Option Address6 :=
  match splitGap text with
  | none => ((readGroups? (parts text)).filter (·.length = 8)).map Address6.mk
  | some (before, behind) => do
    let before ← (parts before).mapM readGroup?
    let behind ← readGroups? (parts behind)
    let missing := 8 - (before.length + behind.length)
    if missing = 0 then none else return ⟨before ++ List.replicate missing 0 ++ behind⟩

/-! ## 2. Writing -/

def zerosAt (groups : List Nat) (place : Nat) : Nat :=
  ((groups.drop place).takeWhile (· == 0)).length

/-- Where most groups of zero follow each other, and how many; of equals the first. -/
def longestGap (groups : List Nat) : Nat × Nat :=
  (List.range groups.length).foldl
    (fun best place =>
      if best.2 < zerosAt groups place then (place, zerosAt groups place) else best)
    (0, 0)

def groupsText (groups : List Nat) : String :=
  ":".intercalate (groups.map fun group => String.ofList (Nat.toDigits 16 group))

/-- An address as it is written: two colons stand for the longest row of two zeros or more. -/
def text (address : Address6) : String :=
  let (place, count) := longestGap address.groups
  if count < 2 then groupsText address.groups
  else groupsText (address.groups.take place) ++ "::"
    ++ groupsText (address.groups.drop (place + count))

end Address6

end JobDesk.Http
