import JobDesk.Json.Read

/-!
# Client arguments — the command line

An option takes the argument behind it, whatever that is, and the last of several equal options
counts.  Any other argument is the config itself, which is given once.  The config comes from the
command line or from a file, and it is an object.
-/

namespace JobDesk.Client

inductive ArgsFault where
  | noServer
  | noPath
  | unexpected (argument : String)
  | twoSources
  | noConfig
  | unreadable (path : String)
  | notJson
  | notObject
  deriving DecidableEq, Inhabited

def ArgsFault.message : ArgsFault → String
  | noServer => "--server needs a URL"
  | noPath => "-f needs a path"
  | unexpected argument => "unexpected argument `" ++ argument ++ "`"
  | twoSources => "a search config cannot come from the command line AND a file"
  | noConfig => "no search config given"
  | unreadable path => s!"failed to read {path}"
  | notJson => "search config is not valid JSON"
  | notObject => "search config must be a JSON object"

structure Given where
  server : Option String := none
  path : Option String := none
  config : Option String := none
  deriving DecidableEq, Inhabited

def Given.scan : Given → List String → Except ArgsFault Given
  | given, [] => .ok given
  | given, argument :: rest =>
    if argument = "--server" then
      match rest with
      | [] => .error .noServer
      | server :: rest => scan { given with server := some server } rest
    else if argument = "-f" ∨ argument = "--file" then
      match rest with
      | [] => .error .noPath
      | path :: rest => scan { given with path := some path } rest
    else if given.config.isSome then .error (.unexpected argument)
    else scan { given with config := some argument } rest

def Given.source (given : Given) (readText? : String → Option String) : Except ArgsFault String :=
  match given.config, given.path with
  | some _, some _ => .error .twoSources
  | none, none => .error .noConfig
  | some config, none => .ok config
  | none, some path =>
    match readText? path with
    | some text => .ok text
    | none => .error (.unreadable path)

def readConfig (text : String) : Except ArgsFault Json :=
  match Json.read? text with
  | some (.object members) => .ok (.object members)
  | some _ => .error .notObject
  | none => .error .notJson

structure Args where
  server : Option String
  config : Json
  deriving Inhabited

def Args.read (readText? : String → Option String) (arguments : List String) :
    Except ArgsFault Args := do
  let given ← Given.scan {} arguments
  let config ← readConfig (← given.source readText?)
  return ⟨given.server, config⟩

end JobDesk.Client
