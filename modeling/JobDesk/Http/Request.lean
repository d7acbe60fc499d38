import JobDesk.Http.ContentCoding
import JobDesk.Http.Percent
import JobDesk.Http.Response
import JobDesk.Job.Report
import JobDesk.Json.Read
import JobDesk.Text.Decimal
import JobDesk.Text.Quoted

/-!
# Http requests — what a request asks for

A request is judged by its method and path first, then by the id in its path, and last by its query
or its body.  `Request.task` gives what it asks for, or why it is refused before any job is touched.
-/

namespace JobDesk.Http

/-! ## 1. Requests -/

/-- A request: its target is a path, and behind a question mark a query.  A scheme and an authority
can stand before the path. -/
structure Request where
  method : String
  target : String
  headers : List (String × String) := []
  body : Bytes := #[]
  deriving Inhabited

namespace Request

def isSchemePart (c : Char) : Bool := c.isAlphanum || c == '+' || c == '-' || c == '.'

def resource (request : Request) : List Char :=
  let target := request.target.toList.takeWhile (· != '#')
  match target.dropWhile isSchemePart with
  | ':' :: '/' :: '/' :: rest => rest.dropWhile fun c => c != '/' && c != '?'
  | _ => target

def path (request : Request) : String :=
  String.ofList (request.resource.takeWhile (· != '?'))

def query (request : Request) : String :=
  String.ofList ((request.resource.dropWhile (· != '?')).drop 1)

def isHeaderText (c : Char) : Bool := (' ' ≤ c && c ≤ '~') || c == '\t'

/-- The value of the last header with a given name, which is in lower case, if it can be read. -/
def header? (request : Request) (name : String) : Option String :=
  let named := request.headers.reverse.find? fun (key, _) => MediaType.lower key.toList == name
  (named.map (·.2)).filter fun value => value.toList.all isHeaderText

end Request

/-! ## 2. Refusals -/

inductive QueryFault where
  | notFlag
  | duplicate (key : String)
  deriving DecidableEq, Inhabited

def QueryFault.message : QueryFault → String
  | notFlag => "provided string was not `true` or `false`"
  | duplicate key => "duplicate field `" ++ key ++ "`"

def bodyLimit : Nat := 2097152

inductive Refusal where
  | unknownEndpoint
  | badId (segment : String)
  | badQuery (fault : QueryFault)
  | badMediaType
  /-- The body is said to have more bytes than it may have. -/
  | bodyTooLarge (size : Nat)
  /-- The body turns out to have more bytes than it may have. -/
  | bodyOverflow
  /-- The body cannot be decompressed. -/
  | unreadableBody (fault : Compression.Fault)
  | malformedBody
  deriving DecidableEq, Inhabited

def Refusal.response : Refusal → Response
  | unknownEndpoint => ⟨404, .empty⟩
  | badId segment => ⟨404, .text s!"can not parse {Text.quoted segment} to a i64"⟩
  | badQuery fault => ⟨400, .text s!"Query deserialize error: {fault.message}"⟩
  | badMediaType => ⟨400, .text "Content type error"⟩
  | bodyTooLarge size =>
    ⟨413, .text s!"JSON payload ({size} bytes) is larger than allowed (limit: {bodyLimit} bytes)."⟩
  | bodyOverflow => ⟨413, .text s!"JSON payload has exceeded limit ({bodyLimit} bytes)."⟩
  | unreadableBody fault =>
    ⟨400, .text ("Error that occur during reading payload: " ++
      s!"payload reached EOF before completing: Some({fault.text})")⟩
  | malformedBody => ⟨400, .text "Json deserialize error"⟩

/-! ## 3. Parts of a request -/

def readId (segment : String) : Except Refusal Int64 :=
  match Text.readInt64? (segmentText segment).toList with
  | some id => .ok id
  | none => .error (.badId segment)

/-- The query that the keys and values of a form stand for; other keys are passed over. -/
def readCancelQuery : (read : Option Bool) → List (String × String) → Except QueryFault CancelQuery
  | read, [] => .ok ⟨read.getD false⟩
  | read, (key, value) :: rest =>
    if key = "only_pending" then
      if read.isSome then .error (.duplicate key)
      else if value = "true" then readCancelQuery (some true) rest
      else if value = "false" then readCancelQuery (some false) rest
      else .error .notFlag
    else readCancelQuery read rest

namespace Request

def cancelQuery (request : Request) : Except Refusal CancelQuery :=
  (readCancelQuery none (formPairs request.query)).mapError .badQuery

def statedSize? (request : Request) : Option Nat := do
  Text.readNat? 0x10000000000000000 (Text.trim (← request.header? "content-length").toList)

def coding (request : Request) : ContentCoding :=
  ((request.header? "content-encoding").map ContentCoding.ofName).getD .identity

def json (request : Request) : Except Refusal Json := do
  if !((request.header? "content-type").bind MediaType.read?).any MediaType.isJson then
    throw .badMediaType
  match request.statedSize? with
  | some size => if bodyLimit < size then throw (.bodyTooLarge size)
  | none => pure ()
  let body ← (request.coding.decode request.body).mapError .unreadableBody
  if bodyLimit < body.content.size then throw .bodyOverflow
  -- A fault at the end of the body is found only after what stands before it.
  if let some fault := body.fault? then throw (.unreadableBody fault)
  match (Bytes.toText? body.content).bind Json.read? with
  | some value => return value
  | none => throw .malformedBody

end Request

/-! ## 4. Tasks -/

inductive Task where
  | health
  | submit (config : Json)
  | fetch (id : Int64)
  | status (id : Int64)
  | cancel (id : Int64) (onlyPending : Bool)
  | wait (id : Int64)
  deriving Inhabited

/-- The parts of a routed path; a path that does not start with a slash has none. -/
def segments (path : String) : List String :=
  match path.toList.splitOn '/' with
  | [] :: rest => rest.map String.ofList
  | _ => []

def Request.task (request : Request) : Except Refusal Task :=
  match request.method, segments (routedPath request.path) with
  | "GET", ["health"] => .ok .health
  | "POST", ["jobs"] => request.json.map .submit
  | "GET", ["jobs", segment] =>
    if segment = "" then .error .unknownEndpoint else (readId segment).map .fetch
  | "GET", ["jobs", segment, "status"] =>
    if segment = "" then .error .unknownEndpoint else (readId segment).map .status
  | "GET", ["jobs", segment, "wait"] =>
    if segment = "" then .error .unknownEndpoint else (readId segment).map .wait
  | "POST", ["jobs", segment, "cancel"] =>
    if segment = "" then .error .unknownEndpoint
    else do
      let id ← readId segment
      return .cancel id (← request.cancelQuery).onlyPending
  | _, _ => .error .unknownEndpoint

end JobDesk.Http
