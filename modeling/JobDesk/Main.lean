import JobDesk.Client.Session
import JobDesk.Service

/-!
# Main — the two programs

Without the word `serve` as its first argument the program is the client.  It has no network of its
own: no database can be reached and no call is answered, and both programs say so as they do of any
such network.
-/

namespace JobDesk.Main

/-! ## 1. Surroundings -/

def readBytes (path : String) : IO (Option Bytes) := do
  try
    return some (← IO.FS.readBinFile path).data
  catch _ =>
    return none

def variableNames : List String :=
  ["DB_HOST", "DB_PORT", "DB_NAME", "DB_USER", "DB_PASSWORD", "DB_MAX_CONNECTIONS",
    "DB_IDLE_TIMEOUT", "DB_CONNECTION_TIMEOUT", "SEARCH_JOBS_TABLE", "JOB_POLL_INTERVAL_MS",
    "EXTRA_WAITING_STATUS_CODES", "CREATE_TABLES", "SERVER_ADDRESS", "SERVER_PORT", "ENVIRONMENT",
    "LOG_LEVEL", "RUST_LOG", "SEARCH_JOBS_URL"]

def environment : IO Environment := do
  let mut env : Environment := {}
  for name in variableNames do
    if let some value ← IO.getEnv name then
      env := env.setMissing name value
  return ((← readBytes ".env").map env.withFile).getD env

def namedText (arguments : List String) : IO (Option String) := do
  match Client.Given.scan {} arguments with
  | .ok { path := some path, .. } => return (← readBytes path).bind Bytes.toText?
  | _ => return none

/-! ## 2. Programs -/

def client (arguments : List String) : IO UInt32 := do
  let text ← namedText arguments
  match Client.Session.begin (← environment) (fun _ => text) arguments with
  | .error fault =>
    IO.eprint (Client.refusalText fault)
    return 2
  | .ok session =>
    let transcript := session.run (List.replicate 5 (.reply .lost ⟨0⟩))
    IO.print transcript.output
    IO.eprint transcript.errors
    return transcript.session.exit?.getD 1

def service : IO UInt32 := do
  let env ← environment
  let settings := Settings.ofEnvironment env
  let run := Service.run settings ({} : Postgres.Unreachable) "" 0 (.open [])
  for record in Service.written env settings run.records do
    IO.eprintln record.fullText
  return run.exit

end JobDesk.Main

def main : List String → IO UInt32
  | "serve" :: _ => JobDesk.Main.service
  | arguments => JobDesk.Main.client arguments
