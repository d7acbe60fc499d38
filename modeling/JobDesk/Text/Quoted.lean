import JobDesk.Text.Hidden

/-!
# Quoted text — text between double quotes, with nothing hidden

The double quote, the backslash and the common controls have escapes of one letter; every other
hidden character is written by its code point in hexadecimal.
-/

namespace JobDesk.Text

def escape (c : Char) : String :=
  if c = '\x00' then "\\0"
  else if c = '\t' then "\\t"
  else if c = '\n' then "\\n"
  else if c = '\r' then "\\r"
  else if c = '"' then "\\\""
  else if c = '\\' then "\\\\"
  else if isHidden c then "\\u\x7b" ++ String.ofList (Nat.toDigits 16 c.toNat) ++ "\x7d"
  else c.toString

def quoted (s : String) : String :=
  s.foldl (fun made c => made ++ escape c) "\"" ++ "\""

end JobDesk.Text
