import JobDesk.Bytes
import JobDesk.Calendar
import JobDesk.Job.Status

/-!
# Job — a row of the job table

A job has an id, the code of its status, the payload of its search config and the time at which it
was submitted.
-/

namespace JobDesk

structure Job where
  id : Int64
  status : Int16
  payload : Bytes
  created : Moment
  deriving DecidableEq, Inhabited

def Job.known (job : Job) : Option Status :=
  Status.ofCode? job.status

end JobDesk
