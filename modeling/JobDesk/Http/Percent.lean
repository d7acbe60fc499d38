import JobDesk.Text.Lossy

/-!
# Percent escapes — bytes in paths and queries

A percent sign and two hexadecimal digits stand for a byte; a percent sign without them stands for
itself.  A path is read with the escapes of percent, slash and plus left as they are, so that they
do not change how the path is divided.  What an address cannot hold is written with escapes.
-/

namespace JobDesk.Http

/-! ## 1. Escapes -/

def hexValue? (b : UInt8) : Option UInt8 :=
  if 0x30 ≤ b ∧ b ≤ 0x39 then some (b - 0x30)
  else if 0x41 ≤ b ∧ b ≤ 0x46 then some (b - 0x37)
  else if 0x61 ≤ b ∧ b ≤ 0x66 then some (b - 0x57)
  else none

def hexPair? (a b : UInt8) : Option UInt8 := do
  return (← hexValue? a) * 16 + (← hexValue? b)

def unescape (isKept : UInt8 → Bool) : List UInt8 → List UInt8
  | c :: a :: b :: rest =>
    if c = 0x25 then
      match hexPair? a b with
      | some byte =>
        if isKept byte then c :: unescape isKept (a :: b :: rest)
        else byte :: unescape isKept rest
      | none => c :: unescape isKept (a :: b :: rest)
    else c :: unescape isKept (a :: b :: rest)
  | rest => rest

def unescapeAll : List UInt8 → List UInt8 := unescape fun _ => false

def escapeByte (b : UInt8) : List Char :=
  let digit (n : Nat) : Char := (Nat.digitChar n).toUpper
  ['%', digit (b.toNat / 16), digit (b.toNat % 16)]

def escape (needsEscape : Char → Bool) (text : List Char) : List Char :=
  text.flatMap fun c =>
    if 0x80 ≤ c.toNat || needsEscape c then
      (Bytes.ofText (String.singleton c)).toList.flatMap escapeByte
    else [c]

def isKeptInPaths (b : UInt8) : Bool := b == 0x25 || b == 0x2f || b == 0x2b

def routedPath (path : String) : String :=
  Text.lossy (unescape isKeptInPaths (Bytes.ofText path).toList)

def segmentText (segment : String) : String :=
  Text.lossy (unescapeAll (Bytes.ofText segment).toList)

/-! ## 2. Forms -/

def formText (bytes : List UInt8) : String :=
  Text.lossy (unescapeAll (bytes.map fun b => if b = 0x2b then 0x20 else b))

def formPair (bytes : List UInt8) : String × String :=
  let key := bytes.takeWhile (· != 0x3d)
  (formText key, formText (bytes.drop (key.length + 1)))

def formPairs (form : String) : List (String × String) :=
  (((Bytes.ofText form).toList.splitOn 0x26).filter fun piece => !piece.isEmpty).map formPair

end JobDesk.Http
