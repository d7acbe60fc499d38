import JobDesk.Client.Args
import JobDesk.Client.Call
import JobDesk.Settings.Environment
import JobDesk.Span

/-!
# Client sessions — one job from submission to its end

A session checks that the server is well, submits one job and waits for it.  An interrupt during the
wait makes it ask for the cancellation of the job, if nobody has picked it up; only if that was
requested does it wait once more.  A session goes on by what it takes in: replies to its calls, and
interrupts.
-/

namespace JobDesk.Client

/-! ## 1. Texts -/

def resetColor : String := "\x1b[0m"
def bold : String := "\x1b[1m"
def red : String := "\x1b[31m"
def green : String := "\x1b[32m"
def yellow : String := "\x1b[33m"
def cyan : String := "\x1b[36m"

def colored (color text : String) : String := s!"{color}{text}{resetColor}\n"

def usage : String := "usage: search_client [--server URL] (<CONFIG_JSON> | -f <FILE>)"

def refusalText (fault : ArgsFault) : String := colored bold fault.message ++ usage ++ "\n"

/-- A span in seconds with two decimals, the nearest to its seconds as a double.  Where two are
nearest, the even one is written: 125 ms are `0.12`. -/
def secondsText (span : Span) : String :=
  let (num, den) := span.asSeconds.ratio
  let hundredths := Binary64.roundHalfEven (100 * num) den
  s!"{hundredths / 100}.{hundredths / 10 % 10}{hundredths % 10}"

/-! ## 2. Sessions -/

inductive Phase where
  | checking
  | submitting
  /-- It waits for a job; the second wait is not interrupted. -/
  | waiting (id : Int64) (isSecond : Bool)
  | cancelling (id : Int64)
  | ended (exit : UInt32)
  deriving DecidableEq, Inhabited

structure Session where
  base : String
  config : Json
  phase : Phase := .checking
  deriving Inhabited

inductive Input where
  /-- A reply to the call under way, with the time since the health check. -/
  | reply (reply : Reply) (elapsed : Span)
  | interrupt
  deriving Inhabited

structure Turn where
  session : Session
  /-- The call that it makes. -/
  call : Option Call := none
  output : String := ""
  errors : String := ""
  deriving Inhabited

namespace Session

def call? (session : Session) : Option Call :=
  match session.phase with
  | .checking => some .health
  | .submitting => some (.submit session.config)
  | .waiting id _ => some (.wait id)
  | .cancelling id => some (.cancelIfPending id)
  | .ended _ => none

def exit? (session : Session) : Option UInt32 :=
  match session.phase with
  | .ended exit => some exit
  | _ => none

def goOn (session : Session) (phase : Phase) (output : String) : Turn :=
  let session := { session with phase := phase }
  { session := session, call := session.call?, output := output }

def fail (session : Session) (fault : Fault) : Turn :=
  { session := { session with phase := .ended 1 }, errors := colored red s!"❌ {fault.message}" }

def settle (session : Session) (id : Int64) (elapsed : Span) : WaitOutcome → Turn
  | .succeeded =>
    session.goOn (.ended 0) (colored green s!"✅ Search finished in {secondsText elapsed}s.")
  | .cancelled => session.goOn (.ended 1) (colored yellow s!"Search job_{id.toInt} cancelled.")
  | .failed message => session.goOn (.ended 1) (colored red s!"❌ Search failed: {message}")

def onReply (session : Session) (reply : Reply) (elapsed : Span) : Turn :=
  match session.phase with
  | .checking =>
    if isHealthy session.base reply then session.goOn .submitting ""
    else session.goOn (.ended 1) (colored red s!"❌ Service unavailable at {session.base}.")
  | .submitting =>
    match submitted session.base session.config reply with
    | .ok id =>
      session.goOn (.waiting id false)
        (colored cyan s!"Search job_{id.toInt} submitted." ++ "Waiting for updates...\n")
    | .error fault => session.fail fault
  | .waiting id _ =>
    match waited session.base id reply with
    | .ok outcome => session.settle id elapsed outcome
    | .error fault => session.fail fault
  | .cancelling id =>
    match cancelled session.base id reply with
    | .ok true => session.goOn (.waiting id true) ""
    | .ok false =>
      session.goOn (.ended 1)
        (colored yellow "Search job already started and will continue to run in the background.")
    | .error fault => session.fail fault
  | .ended _ => { session := session }

def take (session : Session) : Input → Turn
  | .reply reply elapsed => session.onReply reply elapsed
  | .interrupt =>
    match session.phase with
    | .waiting id false =>
      session.goOn (.cancelling id)
        ("\n" ++ colored yellow s!"Trying to cancel search job_{id.toInt}.")
    | _ => { session := session }

/-! ## 3. Runs -/

/-- What came of a session: the calls it made, what it printed, and where it stands. -/
structure Transcript where
  calls : List Call
  output : String
  errors : String
  session : Session
  deriving Inhabited

def follow (session : Session) : List Input → Transcript
  | [] => ⟨[], "", "", session⟩
  | input :: rest =>
    let turn := session.take input
    let after := follow turn.session rest
    ⟨turn.call.toList ++ after.calls, turn.output ++ after.output, turn.errors ++ after.errors,
      after.session⟩

def run (session : Session) (inputs : List Input) : Transcript :=
  let after := session.follow inputs
  { after with calls := session.call?.toList ++ after.calls }

/-! ## 4. Beginning -/

def standardServer : String := "http://localhost:8003"

/-- The session that a command line asks for, if it is not refused; the environment can name the
server. -/
def begin (env : Environment) (readText? : String → Option String) (arguments : List String) :
    Except ArgsFault Session := do
  let args ← Args.read readText? arguments
  let base := args.server.getD ((env.get? "SEARCH_JOBS_URL").getD standardServer)
  return { base := base, config := args.config }

end Session

end JobDesk.Client
