import JobDesk.Desk.Basic

/-!
# Simulation — two job tables that answer alike

What a coordinator and its waits do, and what others do to the table beside them, is a sequence of
operations on any job table.  If two tables answer each operation of job tables alike and stay in
relation, then they answer every sequence alike, but for the times in jobs.
-/

namespace JobDesk

open Coordinator (Notice Outcome Signals WaitState)

/-! ## 1. Operations -/

/-- What others can do to a job table besides the operations of job tables. -/
structure Outside (σ : Type) where
  setCode : σ → Int64 → Int16 → σ
  delete : σ → Int64 → σ
  close : σ → σ
  /-- Time passes. -/
  tick : σ → Moment → σ

/-- What is done with a coordinator and a job table. -/
inductive Operation where
  | table (action : TableAction)
  | tick (now : Moment)
  | submit (config : Json)
  | cancel (id : Int64)
  | cancelIfPending (id : Int64)
  | status (id : Int64)
  | fetch (id : Int64)
  /-- A step of a wait that has come to a given state, others going on beside it. -/
  | read (id : Int64) (signals : Signals) (state : WaitState)
  /-- A wait of some reads at most, nothing going on beside it. -/
  | wait (id : Int64) (signals : Signals) (reads : Nat)
  | shutDown

def Operation.isInsertion : Operation → Bool
  | .table (.insert _) | .submit _ => true
  | _ => false

/-- What comes of an operation: an answer or the state of a wait, and what is reported. -/
structure Finding where
  answer : Answer := .done
  state? : Option WaitState := none
  notices : List Notice := []

def Job.timeless (job : Job) : Job := { job with created := ⟨0, 0⟩ }

def Finding.timeless (finding : Finding) : Finding :=
  { finding with
    answer :=
      match finding.answer with
      | .job job => .job (job.map Job.timeless)
      | answer => answer }

section

variable {σ : Type} [JobStore σ]

def Finding.ofOutcome {α : Type} (answer : α → Answer) (outcome : Outcome σ α) : Finding where
  answer :=
    match outcome.result with
    | .ok value => answer value
    | .error error => .refused error
  notices := outcome.notices

def TableAction.apply (outside : Outside σ) (store : σ) : TableAction → Answer × σ
  | .insert payload =>
    let (result, store) := JobStore.insert store payload
    (Desk.storeAnswer .id result, store)
  | .setStatus id status =>
    let (result, store) := JobStore.setStatus store id status
    (Desk.storeAnswer (fun _ => .done) result, store)
  | .setStatusIf id expected new =>
    let (result, store) := JobStore.setStatusIf store id expected new
    (Desk.storeAnswer .flag result, store)
  | .fetchStatus id =>
    let (result, store) := JobStore.fetchStatus store id
    (Desk.storeAnswer .code result, store)
  | .fetchJob id =>
    let (result, store) := JobStore.fetchJob store id
    (Desk.storeAnswer .job result, store)
  | .setCode id code => (.done, outside.setCode store id code)
  | .delete id => (.done, outside.delete store id)
  | .close => (.done, outside.close store)

def Operation.apply (outside : Outside σ) (c : Coordinator) (store : σ) :
    Operation → Finding × Coordinator × σ
  | .table action =>
    let (answer, store) := action.apply outside store
    ({ answer := answer }, c, store)
  | .tick now => ({}, c, outside.tick store now)
  | .submit config =>
    let outcome := c.submit store config
    (.ofOutcome .id outcome, c, outcome.store)
  | .cancel id =>
    let outcome := c.cancel store id
    (.ofOutcome (fun _ => .done) outcome, c, outcome.store)
  | .cancelIfPending id =>
    let outcome := c.cancelIfPending store id
    (.ofOutcome .flag outcome, c, outcome.store)
  | .status id =>
    let outcome := c.status store id
    (.ofOutcome .code outcome, c, outcome.store)
  | .fetch id =>
    let outcome := c.fetch store id
    (.ofOutcome .job outcome, c, outcome.store)
  | .read id signals state =>
    let (state, store, notices) := state.read c.settings.waiting id signals store
    ({ state? := some state, notices := notices }, c, store)
  | .wait id signals reads =>
    let (state, store, notices) := Coordinator.waitFor c.settings.waiting id reads
      (Coordinator.beginRead id signals none) store
    ({ state? := some state, notices := notices }, c, store)
  | .shutDown =>
    let (c, notices) := c.shutDown
    ({ notices := notices }, c, store)

/-- What some operations give, one after the other, and what they leave behind. -/
def Operation.run (outside : Outside σ) (c : Coordinator) (store : σ) :
    List Operation → List Finding × Coordinator × σ
  | [] => ([], c, store)
  | operation :: rest =>
    let (finding, c, store) := operation.apply outside c store
    let (findings, c, store) := run outside c store rest
    (finding :: findings, c, store)

end

def MemoryStore.outside : Outside MemoryStore where
  setCode := MemoryStore.setCode
  delete := MemoryStore.delete
  close := MemoryStore.close
  tick store now := { store with now := now }

/-! ## 2. Tables in relation -/

def idLimit : Nat := 0x8000000000000000

variable {σ τ α : Type} {R : Nat → σ → τ → Prop}

structure SameResult (related : σ → τ → Prop) (x : StoreResult σ α) (y : StoreResult τ α) :
    Prop where
  result : x.1 = y.1
  related : related x.2 y.2

/-- A relation between two job tables, of which `n` bounds the ids that they have handed out, that
every operation preserves and in which every operation gives the same, but for the times in jobs. -/
structure Simulates [JobStore σ] [JobStore τ] (ours : Outside σ) (theirs : Outside τ)
    (R : Nat → σ → τ → Prop) : Prop where
  weaken : ∀ {n s t}, R n s t → R (n + 1) s t
  insert : ∀ {n s t}, R n s t → n + 1 < idLimit → ∀ payload,
    SameResult (R (n + 1)) (JobStore.insert s payload) (JobStore.insert t payload)
  setStatus : ∀ {n s t}, R n s t → ∀ id status,
    SameResult (R n) (JobStore.setStatus s id status) (JobStore.setStatus t id status)
  setStatusIf : ∀ {n s t}, R n s t → ∀ id expected new,
    SameResult (R n) (JobStore.setStatusIf s id expected new)
      (JobStore.setStatusIf t id expected new)
  fetchStatus : ∀ {n s t}, R n s t → ∀ id,
    SameResult (R n) (JobStore.fetchStatus s id) (JobStore.fetchStatus t id)
  fetchJob : ∀ {n s t}, R n s t → ∀ id,
    (JobStore.fetchJob s id).1.map (Option.map Job.timeless) =
        (JobStore.fetchJob t id).1.map (Option.map Job.timeless) ∧
      R n (JobStore.fetchJob s id).2 (JobStore.fetchJob t id).2
  setCode : ∀ {n s t}, R n s t → ∀ id code, R n (ours.setCode s id code) (theirs.setCode t id code)
  delete : ∀ {n s t}, R n s t → ∀ id, R n (ours.delete s id) (theirs.delete t id)
  close : ∀ {n s t}, R n s t → R n (ours.close s) (theirs.close t)
  tick : ∀ {n s t}, R n s t → ∀ now, R n (ours.tick s now) (theirs.tick t now)

/-- Findings that are the same but for times, from tables that come to be in relation. -/
structure Finding.Alike (related : σ → τ → Prop) (x : Finding × σ) (y : Finding × τ) : Prop where
  finding : x.1.timeless = y.1.timeless
  related : related x.2 y.2

/-! ## 3. Operations of a coordinator -/

variable {s : σ} {t : τ} {n : Nat} {related : σ → τ → Prop}

theorem Finding.alike_ofStore {x : StoreResult σ α} {y : StoreResult τ α} (answer : α → Answer)
    (notices : α → List Notice) (h : SameResult related x y) :
    let x := Outcome.ofStore x notices
    let y := Outcome.ofStore y notices
    Finding.Alike related (.ofOutcome answer x, x.store) (.ofOutcome answer y, y.store) := by
  obtain ⟨result, s⟩ := x
  obtain ⟨other, t⟩ := y
  obtain ⟨rfl, hrelated⟩ := h
  cases result <;> exact ⟨rfl, hrelated⟩

theorem Finding.alike_whenRunning {f : Unit → Outcome σ α} {g : Unit → Outcome τ α}
    (answer : α → Answer) (c : Coordinator) (hrelated : related s t)
    (h : Finding.Alike related (.ofOutcome answer (f ()), (f ()).store)
      (.ofOutcome answer (g ()), (g ()).store)) :
    let x := c.whenRunning s f
    let y := c.whenRunning t g
    Finding.Alike related (.ofOutcome answer x, x.store) (.ofOutcome answer y, y.store) := by
  unfold Coordinator.whenRunning
  split
  · exact ⟨rfl, hrelated⟩
  · exact h

theorem Finding.alike_storeAnswer {x : StoreResult σ α} {y : StoreResult τ α} (answer : α → Answer)
    (h : SameResult related x y) :
    Finding.Alike related ({ answer := Desk.storeAnswer answer x.1 }, x.2)
      ({ answer := Desk.storeAnswer answer y.1 }, y.2) := by
  rw [h.result]
  exact ⟨rfl, h.related⟩

theorem alike_jobs {x y : Except StoreError (Option Job)}
    (h : x.map (Option.map Job.timeless) = y.map (Option.map Job.timeless)) :
    (∃ error, x = .error error ∧ y = .error error) ∨
      ∃ job other, x = .ok job ∧ y = .ok other ∧
        job.map Job.timeless = other.map Job.timeless := by
  cases x <;> cases y
  · exact .inl ⟨_, rfl, by rw [Except.error.inj h]⟩
  · cases h
  · cases h
  · exact .inr ⟨_, _, rfl, rfl, Except.ok.inj h⟩

theorem Finding.timeless_job {job other : Option Job}
    (h : job.map Job.timeless = other.map Job.timeless) :
    ({ answer := .job job } : Finding).timeless =
      ({ answer := .job other } : Finding).timeless := by
  simp only [Finding.timeless, h]

variable [JobStore σ] [JobStore τ] {ours : Outside σ} {theirs : Outside τ}

theorem Simulates.submit (h : Simulates ours theirs R) (hrelated : R n s t)
    (hroom : n + 1 < idLimit) (c : Coordinator) (config : Json) :
    let x := c.submit s config
    let y := c.submit t config
    Finding.Alike (R (n + 1)) (.ofOutcome .id x, x.store) (.ofOutcome .id y, y.store) := by
  apply Finding.alike_whenRunning .id c (h.weaken hrelated)
  split
  · exact ⟨rfl, h.weaken hrelated⟩
  · exact Finding.alike_ofStore .id _ (h.insert hrelated hroom _)

theorem Simulates.cancel (h : Simulates ours theirs R) (hrelated : R n s t) (c : Coordinator)
    (id : Int64) :
    let x := c.cancel s id
    let y := c.cancel t id
    Finding.Alike (R n) (.ofOutcome (fun _ => .done) x, x.store)
      (.ofOutcome (fun _ => .done) y, y.store) := by
  apply Finding.alike_whenRunning (fun _ => .done) c hrelated
  exact Finding.alike_ofStore _ _ (h.setStatus hrelated id .cancelling)

theorem Simulates.cancelIfPending (h : Simulates ours theirs R) (hrelated : R n s t)
    (c : Coordinator) (id : Int64) :
    let x := c.cancelIfPending s id
    let y := c.cancelIfPending t id
    Finding.Alike (R n) (.ofOutcome .flag x, x.store) (.ofOutcome .flag y, y.store) := by
  apply Finding.alike_whenRunning .flag c hrelated
  exact Finding.alike_ofStore _ _ (h.setStatusIf hrelated id .pending .cancelling)

theorem Simulates.status (h : Simulates ours theirs R) (hrelated : R n s t) (c : Coordinator)
    (id : Int64) :
    let x := c.status s id
    let y := c.status t id
    Finding.Alike (R n) (.ofOutcome .code x, x.store) (.ofOutcome .code y, y.store) := by
  apply Finding.alike_whenRunning .code c hrelated
  exact Finding.alike_ofStore _ _ (h.fetchStatus hrelated id)

theorem Simulates.fetch (h : Simulates ours theirs R) (hrelated : R n s t) (c : Coordinator)
    (id : Int64) :
    let x := c.fetch s id
    let y := c.fetch t id
    Finding.Alike (R n) (.ofOutcome .job x, x.store) (.ofOutcome .job y, y.store) := by
  apply Finding.alike_whenRunning .job c hrelated
  obtain ⟨hresult, hafter⟩ := h.fetchJob hrelated id
  generalize JobStore.fetchJob s id = ours at hresult hafter
  generalize JobStore.fetchJob t id = theirs at hresult hafter
  obtain ⟨_, s⟩ := ours
  obtain ⟨_, t⟩ := theirs
  obtain ⟨error, rfl, rfl⟩ | ⟨job, other, rfl, rfl, hjob⟩ := alike_jobs hresult
  · exact ⟨rfl, hafter⟩
  · exact ⟨Finding.timeless_job hjob, hafter⟩

/-! ## 4. Waits -/

theorem Simulates.read (h : Simulates ours theirs R) (hrelated : R n s t) (waiting : WaitingSet)
    (id : Int64) (signals : Signals) (state : WaitState) :
    let x := state.read waiting id signals s
    let y := state.read waiting id signals t
    (x.1 = y.1 ∧ x.2.2 = y.2.2) ∧ R n x.2.1 y.2.1 := by
  unfold WaitState.read
  split
  · obtain ⟨hresult, hafter⟩ := h.fetchStatus hrelated id
    simp only [hresult]
    exact ⟨⟨trivial, trivial⟩, hafter⟩
  · exact ⟨⟨rfl, rfl⟩, hrelated⟩

theorem Simulates.waitFor (h : Simulates ours theirs R) (hrelated : R n s t) (waiting : WaitingSet)
    (id : Int64) (reads : Nat) (state : WaitState) :
    let x := Coordinator.waitFor waiting id reads state s
    let y := Coordinator.waitFor waiting id reads state t
    (x.1 = y.1 ∧ x.2.2 = y.2.2) ∧ R n x.2.1 y.2.1 := by
  induction reads generalizing s t state with
  | zero => exact ⟨⟨rfl, rfl⟩, hrelated⟩
  | succ reads ih =>
    have hread := h.read hrelated waiting id ⟨false, false, default⟩
      (state.onTimer id ⟨false, false, default⟩)
    unfold Coordinator.waitFor
    simp only at hread ⊢
    generalize (state.onTimer id ⟨false, false, default⟩).read waiting id
      ⟨false, false, default⟩ s = x at hread ⊢
    generalize (state.onTimer id ⟨false, false, default⟩).read waiting id
      ⟨false, false, default⟩ t = y at hread ⊢
    obtain ⟨next, s, notices⟩ := x
    obtain ⟨other, t, more⟩ := y
    obtain ⟨⟨rfl, rfl⟩, hafter⟩ := hread
    cases next with
    | sleeping lastSeen =>
      obtain ⟨⟨hstate, hnotices⟩, hrest⟩ := ih hafter (.sleeping lastSeen)
      exact ⟨⟨hstate, congrArg _ hnotices⟩, hrest⟩
    | reading lastSeen => exact ⟨⟨rfl, rfl⟩, hafter⟩
    | ended result => exact ⟨⟨rfl, rfl⟩, hafter⟩

/-! ## 5. Sequences -/

def Operation.room (operation : Operation) : Nat := if operation.isInsertion then 1 else 0

theorem Simulates.table (h : Simulates ours theirs R) (hrelated : R n s t) (action : TableAction)
    (hroom : n + (Operation.table action).room < idLimit) :
    Finding.Alike (R (n + (Operation.table action).room))
      ({ answer := (action.apply ours s).1 }, (action.apply ours s).2)
      ({ answer := (action.apply theirs t).1 }, (action.apply theirs t).2) := by
  cases action with
  | insert payload => exact Finding.alike_storeAnswer .id (h.insert hrelated hroom payload)
  | setStatus id status =>
    exact Finding.alike_storeAnswer (fun _ => .done) (h.setStatus hrelated id status)
  | setStatusIf id expected new =>
    exact Finding.alike_storeAnswer .flag (h.setStatusIf hrelated id expected new)
  | fetchStatus id => exact Finding.alike_storeAnswer .code (h.fetchStatus hrelated id)
  | fetchJob id =>
    obtain ⟨hresult, hafter⟩ := h.fetchJob hrelated id
    refine ⟨?_, hafter⟩
    obtain ⟨error, hours, htheirs⟩ | ⟨job, other, hours, htheirs, hjob⟩ := alike_jobs hresult
    · simp only [TableAction.apply, hours, htheirs]
    · simp only [TableAction.apply, hours, htheirs]
      exact Finding.timeless_job hjob
  | setCode id code => exact ⟨rfl, h.setCode hrelated id code⟩
  | delete id => exact ⟨rfl, h.delete hrelated id⟩
  | close => exact ⟨rfl, h.close hrelated⟩

/-- One operation gives the same on tables in relation and leaves them in relation. -/
theorem Simulates.apply (h : Simulates ours theirs R) (hrelated : R n s t) (c : Coordinator)
    (operation : Operation) (hroom : n + operation.room < idLimit) :
    let x := operation.apply ours c s
    let y := operation.apply theirs c t
    x.2.1 = y.2.1 ∧ Finding.Alike (R (n + operation.room)) (x.1, x.2.2) (y.1, y.2.2) := by
  cases operation with
  | table action => exact ⟨rfl, h.table hrelated action hroom⟩
  | tick now => exact ⟨rfl, rfl, h.tick hrelated now⟩
  | submit config => exact ⟨rfl, h.submit hrelated hroom c config⟩
  | cancel id => exact ⟨rfl, h.cancel hrelated c id⟩
  | cancelIfPending id => exact ⟨rfl, h.cancelIfPending hrelated c id⟩
  | status id => exact ⟨rfl, h.status hrelated c id⟩
  | fetch id => exact ⟨rfl, h.fetch hrelated c id⟩
  | read id signals state =>
    obtain ⟨⟨hstate, hnotices⟩, hafter⟩ := h.read hrelated c.settings.waiting id signals state
    refine ⟨rfl, ?_, hafter⟩
    simp only [Operation.apply, hstate, hnotices]
  | wait id signals reads =>
    obtain ⟨⟨hstate, hnotices⟩, hafter⟩ := h.waitFor hrelated c.settings.waiting id reads
      (Coordinator.beginRead id signals none)
    refine ⟨rfl, ?_, hafter⟩
    simp only [Operation.apply, hstate, hnotices]
  | shutDown => exact ⟨rfl, rfl, hrelated⟩

theorem Simulates.run (h : Simulates ours theirs R) (hrelated : R n s t) (c : Coordinator)
    (operations : List Operation) (hroom : n + operations.countP (·.isInsertion) < idLimit) :
    let x := Operation.run ours c s operations
    let y := Operation.run theirs c t operations
    x.1.map Finding.timeless = y.1.map Finding.timeless ∧ x.2.1 = y.2.1 ∧
      R (n + operations.countP (·.isInsertion)) x.2.2 y.2.2 := by
  induction operations generalizing n s t c with
  | nil => exact ⟨rfl, rfl, hrelated⟩
  | cons operation rest ih =>
    have hcount : n + (operation :: rest).countP (·.isInsertion) =
        n + operation.room + rest.countP (·.isInsertion) := by
      rw [List.countP_cons, Operation.room]
      omega
    rw [hcount] at hroom ⊢
    obtain ⟨hc, hfinding, hafter⟩ := h.apply hrelated c operation (by omega)
    obtain ⟨hfindings, hcoordinator, hlast⟩ := ih hafter (operation.apply ours c s).2.1 hroom
    simp only [Operation.run]
    rw [← hc]
    refine ⟨?_, hcoordinator, hlast⟩
    rw [List.map_cons, List.map_cons, hfindings]
    exact congrArg (· :: _) hfinding

end JobDesk
