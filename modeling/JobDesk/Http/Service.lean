import JobDesk.Coordinator.Wait
import JobDesk.Http.Request

/-!
# Http service — how tasks are answered

Every task but a wait is answered at once, by one operation of the coordinator.  A wait is answered
when it ends, with the status of success or with the error it ended with.
-/

namespace JobDesk.Http

open Coordinator (Notice)

structure Handled (σ : Type) where
  response : Response
  store : σ
  notices : List Notice := []

inductive Reaction (σ : Type) where
  | answered (handled : Handled σ)
  | waits (id : Int64)

/-! ## 1. Responses -/

def version : String := "0.1.0"

/-- How the service is; the members stand in key order, as those of a printed map do. -/
def health (c : Coordinator) : Response :=
  if c.isShutDown then
    ⟨503, .json (.object [("service", .string "search-jobs"), ("status", .string "shutting_down")])⟩
  else
    ⟨200, .json (.object [
      ("poll_interval_ms", Json.ofInt (min c.settings.pollInterval.millis 0xffffffffffffffff)),
      ("service", .string "search-jobs"), ("status", .string "ok"), ("version", .string version)])⟩

def respond {α : Type} (now : String) (render : α → Response) : Except ApiError α → Response
  | .ok value => render value
  | .error error => error.response now

def toApi {α : Type} (result : Except JobError α) : Except ApiError α :=
  result.mapError ApiError.ofJobError

def found {α : Type} (id : Int64) : Except ApiError (Option α) → Except ApiError α
  | .ok (some value) => .ok value
  | .ok none => .error (.notFound id)
  | .error error => .error error

def waitResponse (now : String) (id : Int64) (result : Except JobError Unit) : Response :=
  respond now (fun _ => ⟨200, .json (StatusReport.ofCode id Status.succeeded.code).toJson⟩)
    (toApi result)

/-! ## 2. Tasks -/

section

variable {σ : Type} [JobStore σ]

def submit (c : Coordinator) (store : σ) (now : String) (config : Json) : Handled σ :=
  match config with
  | .object _ =>
    let outcome := c.submit store config
    { response :=
        respond now (fun id => ⟨201, .json (SubmitReport.mk id).toJson⟩) (toApi outcome.result)
      store := outcome.store
      notices := outcome.notices }
  | _ =>
    { response := (ApiError.invalidInput "search config must be a JSON object").response now
      store := store }

def fetch (c : Coordinator) (store : σ) (now : String) (id : Int64) : Handled σ :=
  let outcome := c.fetch store id
  let report := (found id (toApi outcome.result)).bind fun job => toApi job.report
  { response := respond now (fun report => ⟨200, .json report.toJson⟩) report
    store := outcome.store
    notices := outcome.notices }

def status (c : Coordinator) (store : σ) (now : String) (id : Int64) : Handled σ :=
  let outcome := c.status store id
  { response :=
      respond now (fun code => ⟨200, .json (StatusReport.ofCode id code).toJson⟩)
        (found id (toApi outcome.result))
    store := outcome.store
    notices := outcome.notices }

def cancelResponse (id : Int64) (requested : Bool) : Response :=
  ⟨202, .json (CancelReport.mk id requested).toJson⟩

def cancel (c : Coordinator) (store : σ) (now : String) (id : Int64) (onlyPending : Bool) :
    Handled σ :=
  if onlyPending then
    let outcome := c.cancelIfPending store id
    { response := respond now (cancelResponse id) (toApi outcome.result)
      store := outcome.store
      notices := outcome.notices }
  else
    let outcome := c.cancel store id
    { response := respond now (fun _ => cancelResponse id true) (toApi outcome.result)
      store := outcome.store
      notices := outcome.notices }

def perform (c : Coordinator) (store : σ) (now : String) : Task → Reaction σ
  | .health => .answered ⟨health c, store, []⟩
  | .submit config => .answered (submit c store now config)
  | .fetch id => .answered (fetch c store now id)
  | .status id => .answered (status c store now id)
  | .cancel id onlyPending => .answered (cancel c store now id onlyPending)
  | .wait id => .waits id

def serve (c : Coordinator) (store : σ) (now : String) (request : Request) : Reaction σ :=
  match request.task with
  | .ok task => perform c store now task
  | .error refusal => .answered ⟨refusal.response, store, []⟩

end

end JobDesk.Http
