import JobDesk.Coordinator.Basic
import JobDesk.Postgres.TableName
import JobDesk.Postgres.Target
import JobDesk.Settings.Environment
import JobDesk.Text.Decimal

/-!
# Settings — what the service is told by its environment

Every setting has a default, which also stands for a value that cannot be read.  `Settings.check`
says what is wrong with the settings first; `codeList` reads the list of further waiting codes.
-/

namespace JobDesk

inductive SettingsFault where
  | noHost
  | noInterval
  | badTable (name : String)
  | badCode (piece : String)
  | terminalCode (code : Int16)
  deriving DecidableEq, Inhabited

def SettingsFault.message : SettingsFault → String
  | noHost => "DB_HOST is required"
  | noInterval => "JOB_POLL_INTERVAL_MS must be greater than 0"
  | badTable name => Postgres.tableNameMessage name
  | badCode piece => "`" ++ piece ++ "` is not a valid status code"
  | terminalCode code => s!"EXTRA_WAITING_STATUS_CODES contains terminal status code {code.toInt}"

structure Settings where
  dbHost : String := "localhost"
  dbPort : UInt16 := 5432
  dbName : String := "search"
  dbUser : String := "search"
  dbPassword : String := ""
  dbMaxConnections : UInt32 := 2
  /-- In seconds. -/
  dbIdleTimeout : UInt64 := 60
  /-- In seconds. -/
  dbConnectionTimeout : UInt64 := 30
  table : String := Postgres.standardTable
  /-- In milliseconds. -/
  pollInterval : UInt64 := 500
  /-- Further waiting codes, separated by commas. -/
  extraCodes : String := ""
  createTables : Bool := false
  serverAddress : String := "127.0.0.1"
  serverPort : UInt16 := 8003
  environment : String := "development"
  logLevel : String := "info"
  deriving DecidableEq, Inhabited

namespace Settings

/-! ## 1. Reading variables -/

def readVariable {α : Type} (env : Environment) (read : List Char → Option α) (name : String)
    (default : α) : α :=
  ((env.get? name).bind fun value => read (Text.trim value.toList)).getD default

def readWord {α : Type} (limit : Nat) (ofNat : Nat → α) (text : List Char) : Option α :=
  (Text.readNat? limit text).map ofNat

def readFlag (text : List Char) : Option Bool :=
  if text = "true".toList then some true else if text = "false".toList then some false else none

def ofEnvironment (env : Environment) : Settings :=
  let base : Settings := {}
  let text (name default : String) : String := (env.get? name).getD default
  let port := readWord (0x10000) UInt16.ofNat
  let count := readWord (0x100000000) UInt32.ofNat
  let time := readWord (0x10000000000000000) UInt64.ofNat
  { dbHost := text "DB_HOST" base.dbHost
    dbPort := readVariable env port "DB_PORT" base.dbPort
    dbName := text "DB_NAME" base.dbName
    dbUser := text "DB_USER" base.dbUser
    dbPassword := text "DB_PASSWORD" base.dbPassword
    dbMaxConnections := readVariable env count "DB_MAX_CONNECTIONS" base.dbMaxConnections
    dbIdleTimeout := readVariable env time "DB_IDLE_TIMEOUT" base.dbIdleTimeout
    dbConnectionTimeout := readVariable env time "DB_CONNECTION_TIMEOUT" base.dbConnectionTimeout
    table := text "SEARCH_JOBS_TABLE" base.table
    pollInterval := readVariable env time "JOB_POLL_INTERVAL_MS" base.pollInterval
    extraCodes := text "EXTRA_WAITING_STATUS_CODES" base.extraCodes
    createTables := readVariable env readFlag "CREATE_TABLES" base.createTables
    serverAddress := text "SERVER_ADDRESS" base.serverAddress
    serverPort := readVariable env port "SERVER_PORT" base.serverPort
    environment := text "ENVIRONMENT" base.environment
    logLevel := text "LOG_LEVEL" base.logLevel }

/-! ## 2. Further waiting codes -/

/-- The codes of a list of pieces; blanks around a piece and empty pieces do not matter. -/
def codesOfPieces : List (List Char) → Except SettingsFault (List Int16)
  | [] => .ok []
  | piece :: rest =>
    let piece := Text.trim piece
    if piece.isEmpty then codesOfPieces rest
    else
      match Text.readInt16? piece with
      | none => .error (.badCode (String.ofList piece))
      | some code => (codesOfPieces rest).map (code :: ·)

def codeList (text : String) : Except SettingsFault (List Int16) :=
  codesOfPieces (text.toList.splitOn ',')

def isTerminalCode (code : Int16) : Bool :=
  (Status.ofCode? code).any Status.isTerminal

/-- The further waiting codes; a job that has come to its end is never waited for. -/
def extraWaitingCodes (settings : Settings) : Except SettingsFault (List Int16) := do
  let codes ← codeList settings.extraCodes
  match codes.find? isTerminalCode with
  | some code => throw (.terminalCode code)
  | none => return codes

/-! ## 3. What the settings amount to -/

def coordinatorSettings (settings : Settings) : Except SettingsFault CoordinatorSettings := do
  let extra ← settings.extraWaitingCodes
  return {
    pollInterval := .ofMillis settings.pollInterval.toNat
    waiting := .ofCodes (WaitingSet.standard.codes.toList ++ extra) }

def target (settings : Settings) : Postgres.Target where
  host := settings.dbHost
  port := settings.dbPort
  database := settings.dbName
  user := settings.dbUser
  password := settings.dbPassword
  maxConnections := settings.dbMaxConnections
  idleTimeout := .ofSeconds settings.dbIdleTimeout.toNat
  connectionTimeout := .ofSeconds settings.dbConnectionTimeout.toNat

def check (settings : Settings) : Except SettingsFault Unit := do
  if settings.dbHost.isEmpty then throw .noHost
  if settings.pollInterval = 0 then throw .noInterval
  if !Postgres.isIdentifier settings.table then throw (.badTable settings.table)
  discard settings.extraWaitingCodes

def notices (settings : Settings) : List LogRecord :=
  if settings.dbPassword.isEmpty then
    [⟨.warn, "search_jobs::config::env",
      "DB_PASSWORD not configured - relying on trust authentication"⟩]
  else []

def validate (settings : Settings) : Except SettingsFault Unit × List LogRecord :=
  match settings.check with
  | .ok () => (.ok (), settings.notices)
  | .error fault => (.error fault, [])

end Settings

end JobDesk
