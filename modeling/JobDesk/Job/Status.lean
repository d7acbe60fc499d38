/-!
# Status — where a job stands

A job's status is kept as a code.  Six codes have names; other codes belong to workers that know
more states.  A status is waiting until the job has come to its end, and terminal from then on.
-/

namespace JobDesk

inductive Status where
  | pending
  | running
  | succeeded
  | failed
  | cancelling
  | cancelled
  deriving DecidableEq, Inhabited, Repr

namespace Status

def all : List Status := [pending, running, succeeded, failed, cancelling, cancelled]

def code : Status → Int16
  | pending => 0
  | running => 1
  | succeeded => 2
  | failed => 3
  | cancelling => 4
  | cancelled => 5

def ofCode? (code : Int16) : Option Status :=
  all.find? (·.code == code)

def isWaiting : Status → Bool
  | pending | running | cancelling => true
  | succeeded | failed | cancelled => false

def isTerminal (s : Status) : Bool := !s.isWaiting

def name : Status → String
  | pending => "PENDING"
  | running => "RUNNING"
  | succeeded => "SUCCEEDED"
  | failed => "FAILED"
  | cancelling => "CANCELLING"
  | cancelled => "CANCELLED"

def ofName? (name : String) : Option Status :=
  all.find? (·.name == name)

def names : List String := all.map name

def label (code : Int16) : String :=
  match ofCode? code with
  | some s => s.name
  | none => s!"UNKNOWN({code.toInt})"

@[simp] theorem ofCode?_code (s : Status) : ofCode? s.code = some s := by
  cases s <;> rfl

theorem code_injective {s t : Status} (h : s.code = t.code) : s = t := by
  have := congrArg ofCode? h
  simpa using this

end Status

end JobDesk
