import JobDesk.Flexbuffer.Writer
import JobDesk.Flexbuffer.Reader
import JobDesk.Text.Quoted

/-!
# Payload — search configs as bytes

A search config is any JSON value; the payload kept for it is its buffer.  Keys are closed by a zero
in a buffer, so a config with a zero character in a key has none.  `encode` refuses it and names the
first such key in the order of the value.
-/

namespace JobDesk.Payload

inductive EncodeFault where
  /-- A key that holds a zero character. -/
  | zeroInKey (key : String)
  /-- A key that is a double without a decimal text. -/
  | infiniteKey
  /-- A key that has no text in JSON. -/
  | keyWithoutText
  /-- An integer that JSON does not hold exactly. -/
  | numberOutOfRange
  /-- A key that is no text. -/
  | keyNotText
  /-- A number of a type that buffers do not have. -/
  | unsupported (type : String)
  /-- A value that refuses to be written. -/
  | refused (reason : String)
  deriving DecidableEq, Inhabited

def EncodeFault.message : EncodeFault → String
  | zeroInKey key => s!"map key {Text.quoted key} contains a NUL character"
  | infiniteKey => "float key must be finite (got NaN or +/-inf)"
  | keyWithoutText => "key must be a string"
  | numberOutOfRange => "number out of range"
  | keyNotText => "KeyMustBeString"
  | unsupported type => "Serde(" ++ Text.quoted (type ++ " is not supported") ++ ")"
  | refused reason => reason

def holdsZero (key : String) : Bool :=
  key.any (· == '\x00')

mutual

/-- The first key of a value with a zero character in it: a key comes before its value. -/
def zeroKey? : Json → Option String
  | .array items => zeroKeyOfItems? items
  | .object members => zeroKeyOfMembers? members
  | _ => none

def zeroKeyOfItems? : List Json → Option String
  | [] => none
  | item :: rest =>
    match zeroKey? item with
    | some key => some key
    | none => zeroKeyOfItems? rest

def zeroKeyOfMembers? : List (String × Json) → Option String
  | [] => none
  | (key, value) :: rest =>
    if holdsZero key then some key
    else
      match zeroKey? value with
      | some key => some key
      | none => zeroKeyOfMembers? rest

end

def encode (config : Json) : Except EncodeFault Bytes :=
  match zeroKey? config with
  | some key => .error (.zeroInKey key)
  | none => .ok (Flexbuffer.Tree.ofJson config).toBytes

def decode (payload : Bytes) : Except Flexbuffer.ReadFault Json :=
  Flexbuffer.toJson payload

end JobDesk.Payload
