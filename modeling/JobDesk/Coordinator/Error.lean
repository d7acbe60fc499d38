import JobDesk.Store.Error

/-!
# Job errors — why an operation on a job failed

Store errors of submissions, cancellations and single reads are passed on as they are; those of a
wait say which job was waited for.
-/

namespace JobDesk

inductive JobError where
  | store (error : StoreError)
  | statusQuery (id : Int64) (error : StoreError)
  | encoding (reason : String)
  | decoding (reason : String)
  | notFound (id : Int64)
  | cancelled (id : Int64)
  | unexpectedStatus (id : Int64) (code : Int16)
  | abandoned (id : Int64)
  | shutDown
  deriving DecidableEq, Inhabited

namespace JobError

def message : JobError → String
  | store error => error.message
  | statusQuery id error => s!"Failed to query status of search job {id.toInt}: {error.message}"
  | encoding reason => s!"Failed to encode search config: {reason}"
  | decoding reason => s!"Failed to decode search config: {reason}"
  | notFound id => s!"Search job not found with id: {id.toInt}"
  | cancelled id => s!"Search job {id.toInt} was cancelled"
  | unexpectedStatus id code =>
    s!"Search job {id.toInt} finished with unexpected status code {code.toInt}"
  | abandoned id => s!"Stopped waiting for search job {id.toInt}"
  | shutDown => "Job coordinator has been shut down"

def sources : JobError → List String
  | store error => error.sources
  | statusQuery _ error => error.message :: error.sources
  | _ => []

end JobError

end JobDesk
