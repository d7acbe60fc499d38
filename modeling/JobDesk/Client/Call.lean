import JobDesk.Http.Phrase
import JobDesk.Http.Request
import JobDesk.Http.Url
import JobDesk.Json.Print

/-!
# Client calls — what the client asks a server for, and how it reads the replies

A call is one request.  Its reply is judged by the status of the response first; the body is read
only where the status leaves something open, and one that cannot be read says nothing.
-/

namespace JobDesk.Client

open Json (RecordField need)

/-! ## 1. Calls -/

inductive Call where
  | health
  | submit (config : Json)
  | wait (id : Int64)
  | cancelIfPending (id : Int64)
  deriving Inhabited

namespace Call

def target : Call → String
  | health => "/health"
  | submit _ => "/jobs"
  | wait id => s!"/jobs/{id.toInt}/wait"
  | cancelIfPending id => s!"/jobs/{id.toInt}/cancel?only_pending=true"

def request : Call → Http.Request
  | health => { method := "GET", target := health.target }
  | submit config =>
    { method := "POST", target := (submit config).target
      headers := [("content-type", "application/json")]
      body := Bytes.ofText config.text }
  | wait id => { method := "GET", target := (wait id).target }
  | cancelIfPending id => { method := "POST", target := (cancelIfPending id).target }

def url? (base : String) (call : Call) : Option Http.Url := Http.Url.read? (base ++ call.target)

end Call

/-! ## 2. Replies -/

inductive Reply where
  | response (status : Nat) (body : String)
  /-- The call was not answered. -/
  | lost
  deriving DecidableEq, Inhabited

def Reply.ofResponse (response : Http.Response) : Reply :=
  .response response.status response.body.content

/-- A reply as it is received.  Interim responses are passed over, so that nothing comes after them;
some statuses have no body, whatever follows them. -/
def Reply.received : Reply → Reply
  | response status body =>
    if status = 101 ∨ status = 204 ∨ status = 304 then response status ""
    else if status < 200 then lost
    else response status body
  | lost => lost

def plainText (body : String) : String :=
  match body.toList with
  | '\ufeff' :: text => String.ofList text
  | _ => body

inductive Fault where
  | badUrl
  | unanswered (url : String)
  | badBody
  /-- A status that stands for an error. -/
  | errorStatus (status : Nat) (url : String)
  /-- A refusal and what the server said to it. -/
  | refused (status : Nat) (reason : String)
  | disappeared (id : Int64)
  deriving DecidableEq, Inhabited

def Fault.message : Fault → String
  | badUrl => "builder error"
  | unanswered url => s!"error sending request for url ({url})"
  | badBody => "error decoding response body"
  | errorStatus status url =>
    let kind := if status < 500 then "client" else "server"
    s!"HTTP status {kind} error ({Http.statusText status}) for url ({url})"
  | refused status reason => s!"HTTP {Http.statusText status} - {reason}"
  | disappeared id => s!"search job {id.toInt} disappeared"

def responseTo (base : String) (call : Call) (reply : Reply) :
    Except Fault (String × Nat × String) :=
  match call.url? base with
  | none => .error .badUrl
  | some url =>
    match reply.received with
    | .lost => .error (.unanswered url.text)
    | .response status body => .ok (url.text, status, body)

/-! ## 3. Health and submission -/

def isHealthy (base : String) (reply : Reply) : Bool :=
  match responseTo base .health reply with
  | .ok (_, status, _) => Http.isSuccess status
  | .error _ => false

def submitted (base : String) (config : Json) (reply : Reply) : Except Fault Int64 := do
  let (_, status, body) ← responseTo base (.submit config) reply
  if !Http.isSuccess status then throw (.refused status (plainText body))
  match SubmitReport.read body with
  | .ok report => return report.id
  | .error _ => throw .badBody

/-! ## 4. Waits -/

structure ErrorDetail where
  code : String := ""
  message : String := ""
  deriving DecidableEq, Inhabited

namespace ErrorDetail

structure Draft where
  code : Option String := none
  message : Option String := none

def ofDraft (draft : Draft) : ErrorDetail := ⟨draft.code.getD "", draft.message.getD ""⟩

def fields : List (RecordField Draft) :=
  [.of "code" true Json.scanText Draft.code fun draft value => { draft with code := some value },
    .of "message" true Json.scanText Draft.message fun draft value =>
      { draft with message := some value }]

def read (body : String) : ErrorDetail :=
  let error : RecordField (Option Draft) :=
    .of "error" true (Json.scanDraft "ErrorDetail" fields {}) (fun draft => draft)
      fun _ value => some value
  match Json.readRecord "ErrorBody" [error] none .ok body with
  | .ok draft => ofDraft (draft.getD {})
  | .error _ => {}

end ErrorDetail

inductive WaitOutcome where
  | succeeded
  | cancelled
  | failed (message : String)
  deriving DecidableEq, Inhabited

def readWait (id : Int64) (status : Nat) (body : String) : Except Fault WaitOutcome :=
  if Http.isSuccess status then .ok .succeeded
  else if status = 409 then .ok .cancelled
  else if status = 404 then .error (.disappeared id)
  else
    let error := ErrorDetail.read body
    if error.code = "UNEXPECTED_JOB_STATUS" then .ok (.failed error.message)
    else .error (.refused status error.message)

def waited (base : String) (id : Int64) (reply : Reply) : Except Fault WaitOutcome := do
  let (_, status, body) ← responseTo base (.wait id) reply
  readWait id status body

/-! ## 5. Cancellations -/

def readRequested (body : String) : Except Json.Fault Bool :=
  Json.readRecord "CancelJobResponse"
    [RecordField.of "requested" false Json.scanBool (fun draft => draft) fun _ value => some value]
    (none : Option Bool) (need "requested") body

def cancelled (base : String) (id : Int64) (reply : Reply) : Except Fault Bool := do
  let (url, status, body) ← responseTo base (.cancelIfPending id) reply
  if 400 ≤ status ∧ status < 600 then throw (.errorStatus status url)
  match readRequested body with
  | .ok requested => return requested
  | .error _ => throw .badBody

end JobDesk.Client
