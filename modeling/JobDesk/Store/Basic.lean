import JobDesk.Job.Basic
import JobDesk.Store.Error

/-!
# JobStore — what a coordinator asks of a job table

A store hands out ids, keeps a job for each and reads or writes its status.  Each operation gives a
result and the store after it.  The operations on a single id do not report that there is no such
job.
-/

namespace JobDesk

abbrev StoreResult (σ α : Type) := Except StoreError α × σ

class JobStore (σ : Type) where
  /-- A new pending job; its id. -/
  insert : σ → Bytes → StoreResult σ Int64
  /-- Writes a status, whatever it was before. -/
  setStatus : σ → Int64 → Status → StoreResult σ Unit
  /-- Writes the second status if the job has the first; whether it had. -/
  setStatusIf : σ → Int64 → Status → Status → StoreResult σ Bool
  /-- The status code of a job. -/
  fetchStatus : σ → Int64 → StoreResult σ (Option Int16)
  /-- A job. -/
  fetchJob : σ → Int64 → StoreResult σ (Option Job)

end JobDesk
