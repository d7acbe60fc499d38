/-!
# Log records — what a component reports while it works

A record has a level, the component it comes from and a text.
-/

namespace JobDesk

inductive LogLevel where
  | error
  | warn
  | info
  | debug
  | trace
  deriving DecidableEq, Inhabited, Repr

namespace LogLevel

def all : List LogLevel := [error, warn, info, debug, trace]

def name : LogLevel → String
  | error => "ERROR"
  | warn => "WARN"
  | info => "INFO"
  | debug => "DEBUG"
  | trace => "TRACE"

def rank : LogLevel → Nat
  | error => 1
  | warn => 2
  | info => 3
  | debug => 4
  | trace => 5

end LogLevel

structure LogRecord where
  level : LogLevel
  target : String
  message : String
  deriving DecidableEq, Inhabited

namespace LogRecord

def text (record : LogRecord) : String :=
  s!"{record.level.name} {record.message}"

def fullText (record : LogRecord) : String :=
  s!"{record.level.name} {record.target}: {record.message}"

end LogRecord

end JobDesk
