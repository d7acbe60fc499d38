import JobDesk.Coordinator.Error
import JobDesk.Json.Print

/-!
# Http responses — answers and errors

An error of an operation on a job becomes an error of the service, which has a status, a code and a
wording, and is answered with an object that also gives the time.
-/

namespace JobDesk.Http

/-! ## 1. Responses -/

inductive Body where
  | empty
  | text (content : String)
  | json (value : Json)
  deriving Inhabited

structure Response where
  status : Nat
  body : Body
  deriving Inhabited

namespace Body

def mediaType? : Body → Option String
  | empty => none
  | text _ => some "text/plain; charset=utf-8"
  | json _ => some "application/json"

def content : Body → String
  | empty => ""
  | text content => content
  | json value => value.text

end Body

/-! ## 2. Errors of the service -/

inductive ApiError where
  | notFound (id : Int64)
  | cancelled (id : Int64)
  | unexpectedStatus (id : Int64) (code : Int16)
  | invalidInput (reason : String)
  | database (reason : String)
  | internal (reason : String)
  | unavailable
  deriving DecidableEq, Inhabited

namespace ApiError

def ofJobError : JobError → ApiError
  | .notFound id => notFound id
  | .cancelled id => cancelled id
  | .unexpectedStatus id code => unexpectedStatus id code
  | .encoding reason => invalidInput reason
  | .store error => database (JobError.store error).message
  | .statusQuery id error => database (JobError.statusQuery id error).message
  | .shutDown | .abandoned _ => unavailable
  | .decoding reason => internal reason

def message : ApiError → String
  | notFound id => s!"Search job not found with id: {id.toInt}"
  | cancelled id => s!"Search job {id.toInt} was cancelled"
  | unexpectedStatus id code =>
    s!"Search job {id.toInt} finished with unexpected status code {code.toInt}"
  | invalidInput reason => s!"Invalid input: {reason}"
  | database reason => s!"Database error: {reason}"
  | internal reason => s!"Internal server error: {reason}"
  | unavailable => "Service temporarily unavailable"

def code : ApiError → String
  | notFound _ => "NOT_FOUND"
  | cancelled _ => "JOB_CANCELLED"
  | unexpectedStatus _ _ => "UNEXPECTED_JOB_STATUS"
  | invalidInput _ => "INVALID_INPUT"
  | database _ => "DATABASE_ERROR"
  | internal _ => "INTERNAL_ERROR"
  | unavailable => "SERVICE_UNAVAILABLE"

def status : ApiError → Nat
  | notFound _ => 404
  | cancelled _ => 409
  | unexpectedStatus _ _ => 500
  | invalidInput _ => 400
  | database _ => 500
  | internal _ => 500
  | unavailable => 503

def response (error : ApiError) (now : String) : Response where
  status := error.status
  body :=
    let detail : List (String × Json) :=
      match error with
      | unexpectedStatus _ code => [("status_code", .ofInt16 code)]
      | _ => []
    .json (.object [("error", .object
      ([("code", .string error.code), ("message", .string error.message)] ++ detail
        ++ [("timestamp", .string now)]))])

end ApiError

end JobDesk.Http
