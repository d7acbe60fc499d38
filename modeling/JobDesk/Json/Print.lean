import JobDesk.Json.Basic
import JobDesk.Decimal.Style

/-!
# Json printing — from values to text

Values are written without blanks.  In strings the quote, the backslash and controls are escaped,
and everything else stands for itself.
-/

namespace JobDesk.Json

def hexDigit (n : Nat) : Char :=
  if n < 10 then Char.ofNat (48 + n) else Char.ofNat (87 + n)

def escapeChar (c : Char) : List Char :=
  if c = '"' then ['\\', '"']
  else if c = '\\' then ['\\', '\\']
  else if c = '\x08' then ['\\', 'b']
  else if c = '\x0c' then ['\\', 'f']
  else if c = '\n' then ['\\', 'n']
  else if c = '\r' then ['\\', 'r']
  else if c = '\t' then ['\\', 't']
  else if c.toNat < 32 then
    ['\\', 'u', '0', '0', hexDigit (c.toNat / 16), hexDigit (c.toNat % 16)]
  else [c]

def printString (s : String) (made : String) : String :=
  (s.foldl (fun made c => (escapeChar c).foldl String.push made) (made.push '"')).push '"'

mutual

def print : Json → String → String
  | .null, made => made ++ "null"
  | .bool value, made => made ++ if value then "true" else "false"
  | .integer value, made => made ++ toString value.val
  | .float value, made => made ++ Decimal.text .double value.val
  | .string value, made => printString value made
  | .array items, made => (printItems items (made.push '[') true).push ']'
  | .object members, made => (printMembers members (made.push '\x7b') true).push '\x7d'

def printItems : List Json → String → (isFirst : Bool) → String
  | [], made, _ => made
  | item :: rest, made, isFirst =>
    printItems rest (print item (if isFirst then made else made.push ',')) false

def printMembers : List (String × Json) → String → (isFirst : Bool) → String
  | [], made, _ => made
  | (key, value) :: rest, made, isFirst =>
    let made := (printString key (if isFirst then made else made.push ',')).push ':'
    printMembers rest (print value made) false

end

def text (value : Json) : String :=
  print value ""

def quote (s : String) : String :=
  printString s ""

end JobDesk.Json
