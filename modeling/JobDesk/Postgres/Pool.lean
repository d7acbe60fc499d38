import JobDesk.Postgres.Reply
import JobDesk.Postgres.Statement
import JobDesk.Postgres.Target

/-!
# Pools — connections to a database

A link is what lies between the service and its database: it answers attempts to connect and
statements.  A backend is a link and all pools that were ever opened on it, told apart by their
numbers.  A pool connects when it is first asked to and again after its connection has ended; a
closed pool refuses everything.
-/

namespace JobDesk.Postgres

/-! ## 1. Links -/

inductive ConnectAnswer where
  | connected
  /-- Nobody listens; the attempt is repeated until its time runs out. -/
  | refused
  | failed (error : StoreError)
  deriving Inhabited

/-- What lies between the service and its database. -/
class Link (L : Type) where
  connect : L → Target → ConnectAnswer × L
  /-- The reply to a statement on a table. -/
  execute : L → (table : String) → Statement → Reply × L

structure Unreachable where
  deriving Inhabited

def unreachableError : StoreError := .io "Network is unreachable (os error 101)"

instance : Link Unreachable where
  connect link _ := (.failed unreachableError, link)
  execute link _ _ := (.closed, link)

/-! ## 2. Pools -/

structure Pool where
  target : Target
  isConnected : Bool
  isClosed : Bool
  deriving DecidableEq, Inhabited

/-- A link and the pools opened on it; the number of a pool is its place in the list. -/
structure Backend (L : Type) where
  link : L
  pools : List Pool := []

namespace Backend

variable {L : Type}

def adopt (backend : Backend L) (target : Target) : Nat × Backend L :=
  (backend.pools.length, { backend with pools := backend.pools ++ [⟨target, false, false⟩] })

def pool? (backend : Backend L) (pool : Nat) : Option Pool := backend.pools[pool]?

def isClosed (backend : Backend L) (pool : Nat) : Bool :=
  (backend.pool? pool).all (·.isClosed)

def modify (backend : Backend L) (pool : Nat) (change : Pool → Pool) : Backend L :=
  { backend with pools := backend.pools.modify pool change }

def close (backend : Backend L) (pool : Nat) : Backend L :=
  backend.modify pool fun p => { p with isConnected := false, isClosed := true }

def openPools (backend : Backend L) : List Nat :=
  (List.range backend.pools.length).filter fun pool => !backend.isClosed pool

variable [Link L]

def acquire (backend : Backend L) (pool : Nat) : Except StoreError Unit × Backend L :=
  match backend.pool? pool with
  | none => (.error .poolClosed, backend)
  | some p =>
    if p.isClosed then (.error .poolClosed, backend)
    else if p.isConnected then (.ok (), backend)
    else
      let (answer, link) := Link.connect backend.link p.target
      let backend := { backend with link := link }
      match answer with
      | .connected => (.ok (), backend.modify pool fun p => { p with isConnected := true })
      | .refused => (.error .poolTimedOut, backend)
      | .failed error => (.error error, backend)

def execute (backend : Backend L) (pool : Nat) (table : String) (statement : Statement) :
    Except StoreError Rows × Backend L :=
  match backend.acquire pool with
  | (.error error, backend) => (.error error, backend)
  | (.ok (), backend) =>
    let (reply, link) := Link.execute backend.link table statement
    let backend := { backend with link := link }
    match reply with
    | .rows rows => (.ok rows, backend)
    | .refused message => (.error (.database message), backend)
    | .closed => (.error closedError, backend.modify pool fun p => { p with isConnected := false })

def connect (backend : Backend L) (target : Target) : Except StoreError Nat × Backend L :=
  let (pool, backend) := backend.adopt target
  match backend.acquire pool with
  | (.ok (), backend) => (.ok pool, backend)
  | (.error error, backend) => (.error error, backend.close pool)

end Backend

end JobDesk.Postgres
