import JobDesk.Coordinator.Wait
import JobDesk.Keeper.Error
import JobDesk.Keeper.Notice
import JobDesk.Postgres.Repository
import JobDesk.Postgres.TableName

/-!
# Keeper — the one pool of the service

A keeper is empty until it takes a pool over, which it does once; it then builds a coordinator on
the pool.  Shutdown stops the coordinator first and closes the pool after it; from then on the
keeper gives nothing away and takes nothing over.  A failed attempt leaves the keeper empty and no
pool open.
-/

namespace JobDesk

open Postgres (Backend Link Repository Target)

namespace Keeper

inductive Phase where
  | empty
  /-- It holds a pool and the coordinator built on it, each by its number. -/
  | ready (pool coordinator : Nat)
  | shutDown
  deriving DecidableEq, Inhabited

structure Mounted where
  coordinator : Coordinator
  pool : Nat
  table : String
  deriving Inhabited

inductive Act where
  | opened (pool : Nat)
  | closed (pool : Nat)
  | stopped (coordinator : Nat)
  deriving DecidableEq

end Keeper

/-- A keeper: how it builds coordinators, where it stands, the backend, and all coordinators it
built; the number of a coordinator is its place in the list. -/
structure Keeper (L : Type) where
  settings : CoordinatorSettings := {}
  createTables : Bool := false
  phase : Keeper.Phase := .empty
  backend : Backend L
  mounted : List Keeper.Mounted := []

namespace Keeper

/-- What came of asking a keeper: the result, the keeper after it, its acts and its reports. -/
structure Outcome (L α : Type) where
  result : α
  keeper : Keeper L
  acts : List Act := []
  notices : List Notice := []

variable {L : Type}

/-! ## 1. Taking a pool over -/

/-- Builds a coordinator on a pool and holds both; the coordinator's number. -/
def attach (keeper : Keeper L) (pool : Nat) (table : String) : Nat × Keeper L :=
  let coordinator := keeper.mounted.length
  (coordinator,
    { keeper with
      phase := .ready pool coordinator
      mounted := keeper.mounted ++ [⟨{ settings := keeper.settings }, pool, table⟩] })

def readyNotice (keeper : Keeper L) (table : String) : Notice :=
  .ready table keeper.settings.pollInterval

def refusal? (target? : Option Target) (table : String) : Option PoolError :=
  let faults := (target?.map Target.faults).getD []
  if !faults.isEmpty then some (.invalidConfig (Target.faultsMessage faults))
  else if !Postgres.isIdentifier table then some (.invalidConfig (Postgres.tableNameMessage table))
  else none

def install (keeper : Keeper L) (pool : Nat) (table : String) : Outcome L (Except PoolError Nat) :=
  match keeper.phase with
  | .empty =>
    match refusal? none table with
    | some error => { result := .error error, keeper := keeper }
    | none =>
      let (coordinator, keeper) := keeper.attach pool table
      { result := .ok coordinator, keeper := keeper, notices := [keeper.readyNotice table] }
  | _ => { result := .error .doubleInitialization, keeper := keeper }

section

variable [Link L]

def prepare (keeper : Keeper L) (pool : Nat) (table : String) :
    Except StoreError Unit × Keeper L × List Notice :=
  if keeper.createTables then
    match (Repository.mk keeper.backend pool table).ensureTable with
    | (.ok (), repository) =>
      (.ok (), { keeper with backend := repository.backend }, [.tableEnsured table])
    | (.error error, repository) =>
      (.error error, { keeper with backend := repository.backend }, [])
  else (.ok (), keeper, [])

def giveUp (keeper : Keeper L) (pool : Nat) (error : StoreError) (notices : List Notice) :
    Outcome L (Except PoolError Nat) where
  result := .error (.initialization error)
  keeper := { keeper with backend := keeper.backend.close pool }
  acts := [.opened pool, .closed pool]
  notices := notices

/-- Opens a pool, asks it for a first answer, makes sure of the table and takes the pool over. -/
def connect (keeper : Keeper L) (target : Target) (table : String) :
    Outcome L (Except PoolError Nat) :=
  let started : List Notice := [.connecting target.address]
  match keeper.backend.connect target with
  | (.error error, backend) =>
    { result := .error (.initialization error), keeper := { keeper with backend := backend }
      notices := started }
  | (.ok pool, backend) =>
    -- From here on a pool is open, and every failure closes it.
    match backend.execute pool table .verify with
    | (.error error, backend) => { keeper with backend := backend }.giveUp pool error started
    | (.ok _, backend) =>
      let reached := started ++ [.connected]
      match { keeper with backend := backend }.prepare pool table with
      | (.error error, keeper, _) => keeper.giveUp pool error reached
      | (.ok (), keeper, ensured) =>
        let (coordinator, keeper) := keeper.attach pool table
        { result := .ok coordinator, keeper := keeper, acts := [.opened pool]
          notices := reached ++ ensured ++ [keeper.readyNotice table] }

/-- Opens a pool and takes it over, if none was taken over before and no setting breaks a rule. -/
def setUp (keeper : Keeper L) (target : Target) (table : String) :
    Outcome L (Except PoolError Nat) :=
  match keeper.phase with
  | .empty =>
    match refusal? (some target) table with
    | some error => { result := .error error, keeper := keeper }
    | none => keeper.connect target table
  | _ => { result := .error .doubleInitialization, keeper := keeper }

end

/-! ## 2. Giving away -/

def pool? (keeper : Keeper L) : Option Nat :=
  match keeper.phase with
  | .ready pool _ => some pool
  | _ => none

def coordinator? (keeper : Keeper L) : Option Nat :=
  match keeper.phase with
  | .ready _ coordinator => some coordinator
  | _ => none

/-! ## 3. Shutdown -/

def stop (keeper : Keeper L) (coordinator : Nat) : Keeper L × List Notice :=
  match keeper.mounted[coordinator]? with
  | none => (keeper, [])
  | some mounted =>
    let (stopped, notices) := mounted.coordinator.shutDown
    ({ keeper with
        mounted := keeper.mounted.set coordinator { mounted with coordinator := stopped } },
      notices.map .coordinator)

def shutDown (keeper : Keeper L) : Outcome L Unit :=
  match keeper.phase with
  | .ready pool coordinator =>
    let (keeper, notices) := { keeper with phase := .shutDown }.stop coordinator
    { result := ()
      keeper := { keeper with backend := keeper.backend.close pool }
      acts := [.stopped coordinator, .closed pool]
      notices := notices ++ [.closing, .closed] }
  | _ => { result := (), keeper := keeper }

/-! ## 4. Coordinators -/

def operate {α : Type} (keeper : Keeper L) (mounted : Mounted)
    (operation : Coordinator → Repository L → Coordinator.Outcome (Repository L) α) :
    Outcome L (Except JobError α) :=
  let outcome := operation mounted.coordinator ⟨keeper.backend, mounted.pool, mounted.table⟩
  { result := outcome.result
    keeper := { keeper with backend := outcome.store.backend }
    notices := outcome.notices.map .coordinator }

/-- A wait of at most the given number of reads; `none` when it has not ended by then. -/
def wait [Link L] (keeper : Keeper L) (mounted : Mounted) (id : Int64) (reads : Nat) :
    Outcome L (Option (Except JobError Unit)) :=
  let signals : Coordinator.Signals := ⟨false, mounted.coordinator.isShutDown, default⟩
  let (state, store, notices) :=
    Coordinator.waitFor mounted.coordinator.settings.waiting id reads
      (Coordinator.beginRead id signals none)
      (Repository.mk keeper.backend mounted.pool mounted.table)
  { result :=
      match state with
      | .ended result => some result
      | _ => none
    keeper := { keeper with backend := store.backend }
    notices := notices.map .coordinator }

end Keeper

end JobDesk
