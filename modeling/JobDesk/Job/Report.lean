import JobDesk.Coordinator.Error
import JobDesk.Job.Basic
import JobDesk.Json.Shape
import JobDesk.Payload.Basic

/-!
# Job reports — what a client is told about jobs

Reports are records that are written as JSON objects, their members in the order of the fields, and
read back from JSON text.
-/

namespace JobDesk

open Json (RecordField need)

/-! ## 1. A submitted job -/

structure SubmitReport where
  id : Int64
  deriving DecidableEq, Inhabited

namespace SubmitReport

def toJson (report : SubmitReport) : Json :=
  .object [("job_id", .ofInt64 report.id)]

def read (text : String) : Except Json.Fault SubmitReport :=
  Json.readRecord "SubmitJobResponse"
    [RecordField.of "job_id" false Json.scanInt64 (fun draft => draft) fun _ value => some value]
    (none : Option Int64) (fun draft => do return ⟨← need "job_id" draft⟩) text

end SubmitReport

/-! ## 2. The status of a job -/

structure StatusReport where
  id : Int64
  label : String
  code : Int16
  deriving DecidableEq, Inhabited

namespace StatusReport

def ofCode (id : Int64) (code : Int16) : StatusReport := ⟨id, Status.label code, code⟩

def toJson (report : StatusReport) : Json :=
  .object
    [("job_id", .ofInt64 report.id), ("status", .string report.label),
      ("code", .ofInt16 report.code)]

structure Draft where
  id : Option Int64 := none
  label : Option String := none
  code : Option Int16 := none

def fields : List (RecordField Draft) :=
  [.of "job_id" false Json.scanInt64 Draft.id fun draft value => { draft with id := some value },
    .of "status" false Json.scanText Draft.label fun draft value =>
      { draft with label := some value },
    .of "code" false Json.scanInt16 Draft.code fun draft value => { draft with code := some value }]

def read (text : String) : Except Json.Fault StatusReport :=
  Json.readRecord "JobStatusResponse" fields {}
    (fun draft => do
      return ⟨← need "job_id" draft.id, ← need "status" draft.label, ← need "code" draft.code⟩) text

end StatusReport

/-! ## 3. A cancelled job -/

structure CancelReport where
  id : Int64
  requested : Bool
  deriving DecidableEq, Inhabited

namespace CancelReport

def toJson (report : CancelReport) : Json :=
  .object [("job_id", .ofInt64 report.id), ("requested", .bool report.requested)]

structure Draft where
  id : Option Int64 := none
  requested : Option Bool := none

def fields : List (RecordField Draft) :=
  [.of "job_id" false Json.scanInt64 Draft.id fun draft value => { draft with id := some value },
    .of "requested" false Json.scanBool Draft.requested fun draft value =>
      { draft with requested := some value }]

def read (text : String) : Except Json.Fault CancelReport :=
  Json.readRecord "CancelJobResponse" fields {}
    (fun draft => do return ⟨← need "job_id" draft.id, ← need "requested" draft.requested⟩) text

end CancelReport

/-- How a cancellation is asked for: only while nobody has picked the job up, or always. -/
structure CancelQuery where
  onlyPending : Bool := false
  deriving DecidableEq, Inhabited

def CancelQuery.read (text : String) : Except Json.Fault CancelQuery :=
  Json.readRecord "CancelJobQuery"
    [.of "only_pending" true Json.scanBool (fun draft : Option Bool => draft)
      fun _ value => some value]
    (none : Option Bool) (fun draft => .ok ⟨draft.getD false⟩) text

def Status.read (text : String) : Except Json.Fault Status :=
  Json.readVariant Status.names Status.ofName? text

/-- The status that a JSON value names: by its name, or by an object of that one name and null. -/
def Status.ofJson? : Json → Option Status
  | .string name => Status.ofName? name
  | .object [(name, .null)] => Status.ofName? name
  | _ => none

/-! ## 4. A job as a whole -/

structure JobReport where
  id : Int64
  label : String
  code : Int16
  config : Json
  created : Moment
  deriving Inhabited

namespace JobReport

def members (report : JobReport) : List (String × Json) :=
  [("job_id", .ofInt64 report.id), ("status", .string report.label), ("code", .ofInt16 report.code),
    ("search_config", report.config), ("creation_time", .string report.created.text)]

def toJson (report : JobReport) : Json := .object report.members

end JobReport

def Job.report (job : Job) : Except JobError JobReport :=
  match Payload.decode job.payload with
  | .ok config => .ok ⟨job.id, Status.label job.status, job.status, config, job.created⟩
  | .error fault => .error (.decoding fault.message)

end JobDesk
