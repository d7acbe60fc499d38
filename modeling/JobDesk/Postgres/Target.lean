import JobDesk.Json.Print
import JobDesk.Span
import JobDesk.Text.Quoted

/-!
# Target — which database to connect to, and how

A target names a database and says how many connections may be open at once and how long they may
take.  It is checked before any connection is made; its written form does not show the password.
-/

namespace JobDesk.Postgres

structure Target where
  host : String
  port : UInt16
  database : String
  user : String
  password : String
  maxConnections : UInt32
  idleTimeout : Span
  connectionTimeout : Span
  deriving DecidableEq, Inhabited

inductive Rule where
  /-- A text must have one character at least. -/
  | nonEmpty (value : String)
  /-- A number must be one at least, and at most `high` if that is given. -/
  | range (high : Option Nat) (value : Nat)
  deriving DecidableEq

namespace Rule

def code : Rule → String
  | nonEmpty _ => "length"
  | range _ _ => "range"

def params : Rule → List (String × String)
  | nonEmpty value => [("min", "1"), ("value", Json.quote value)]
  | range none value => [("min", "1"), ("value", toString value)]
  | range (some high) value =>
    [("max", toString high), ("min", "1"), ("value", toString value)]

def shown : Rule → List (String × String)
  | nonEmpty value => [("min", "Number(1)"), ("value", s!"String({Text.quoted value})")]
  | range none value => [("min", "Number(1.0)"), ("value", s!"Number({value})")]
  | range (some high) value =>
    [("max", s!"Number({high}.0)"), ("min", "Number(1.0)"), ("value", s!"Number({value})")]

def message (rule : Rule) : String :=
  "Validation error: " ++ rule.code ++ " [\x7b"
    ++ String.intercalate ", "
      (rule.shown.map fun (name, value) => Text.quoted name ++ ": " ++ value)
    ++ "\x7d]"

end Rule

structure FieldFault where
  field : String
  rule : Rule
  deriving DecidableEq

def FieldFault.message (fault : FieldFault) : String :=
  fault.field ++ ": " ++ fault.rule.message

namespace Target

def connectionLimit : Nat := 64

def textFault (field value : String) : List FieldFault :=
  if value.isEmpty then [⟨field, .nonEmpty value⟩] else []

def numberFault (field : String) (high : Option Nat) (value : Nat) : List FieldFault :=
  if value = 0 ∨ high.any (· < value) then [⟨field, .range high value⟩] else []

def faults (target : Target) : List FieldFault :=
  textFault "host" target.host
    ++ numberFault "port" none target.port.toNat
    ++ textFault "database" target.database
    ++ textFault "user" target.user
    ++ numberFault "max_connections" (some connectionLimit) target.maxConnections.toNat

def faultsMessage (faults : List FieldFault) : String :=
  String.intercalate "\n" ((faults.map FieldFault.message).mergeSort fun a b => !decide (b < a))

def text (target : Target) : String :=
  "DbConfig \x7b host: " ++ Text.quoted target.host ++ ", port: " ++ toString target.port.toNat
    ++ ", database: " ++ Text.quoted target.database ++ ", user: " ++ Text.quoted target.user
    ++ ", password: \"***\", max_connections: " ++ toString target.maxConnections.toNat
    ++ ", idle_timeout: " ++ target.idleTimeout.text
    ++ ", connection_timeout: " ++ target.connectionTimeout.text ++ " \x7d"

def address (target : Target) : String :=
  s!"{target.user}@{target.host}:{target.port.toNat}/{target.database}"

end Target

end JobDesk.Postgres
