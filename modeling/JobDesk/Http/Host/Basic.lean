import JobDesk.Http.Host.Address4
import JobDesk.Http.Host.Address6
import JobDesk.Http.Host.Name
import JobDesk.Http.Percent

/-!
# Hosts — by what a host is named

A host is named by an address in brackets, or by a name, which can have percent escapes.  A name
whose last label is a number is an address.
-/

namespace JobDesk.Http

inductive Host where
  | name (name : String)
  | address4 (address : Address4)
  | address6 (address : Address6)
  deriving DecidableEq, Inhabited

namespace Host

def readBracketed? (text : List Char) : Option Host :=
  if text.getLast? = some ']' then (Address6.read? text.dropLast).map address6 else none

def read? (text : List Char) : Option Host :=
  match text with
  | '[' :: text => readBracketed? text
  | text => do
    let plain ← Bytes.toText? (unescapeAll (Bytes.ofText (String.ofList text)).toList).toArray
    let name ← nameToAscii? plain.toList
    if Address4.isMeant name then (Address4.read? name).map address4
    else return .name (String.ofList name)

def text : Host → String
  | .name written => written
  | .address4 address => address.text
  | .address6 address => "[" ++ address.text ++ "]"

end Host

end JobDesk.Http
