import JobDesk.Store.Basic

/-!
# MemoryStore — a job table in memory

Ids are handed out from one upwards and never again.  A closed store refuses every operation of a
job table; what workers and clean-up do to its rows goes on.
-/

namespace JobDesk

/-- A job table in memory: its rows by id in the order of their ids, the last id handed out, whether
it is closed, how many status reads it has answered, and the time that new rows are given. -/
structure MemoryStore where
  rows : List (Int64 × Job) := []
  lastId : Int64 := 0
  isClosed : Bool := false
  statusReads : Nat := 0
  now : Moment := ⟨0, 0⟩
  deriving DecidableEq, Inhabited

namespace MemoryStore

def job? (store : MemoryStore) (id : Int64) : Option Job :=
  store.rows.lookup id

def status? (store : MemoryStore) (id : Int64) : Option Int16 :=
  (store.job? id).map (·.status)

def setCode (store : MemoryStore) (id : Int64) (code : Int16) : MemoryStore :=
  { store with
    rows := store.rows.map fun (key, job) =>
      (key, if key == id then { job with status := code } else job) }

def delete (store : MemoryStore) (id : Int64) : MemoryStore :=
  { store with rows := store.rows.filter fun (key, _) => key != id }

def close (store : MemoryStore) : MemoryStore :=
  { store with isClosed := true }

def append (store : MemoryStore) (payload : Bytes) : MemoryStore :=
  let id := store.lastId + 1
  { store with
    rows := store.rows ++ [(id, ⟨id, Status.pending.code, payload, store.now⟩)]
    lastId := id }

def whenOpen {α : Type} (store : MemoryStore) (operation : α × MemoryStore) :
    StoreResult MemoryStore α :=
  if store.isClosed then (.error .poolClosed, store) else (.ok operation.1, operation.2)

instance : JobStore MemoryStore where
  insert store payload := store.whenOpen (store.lastId + 1, store.append payload)
  setStatus store id status := store.whenOpen ((), store.setCode id status.code)
  setStatusIf store id expected new :=
    store.whenOpen
      (if store.status? id = some expected.code then (true, store.setCode id new.code)
      else (false, store))
  fetchStatus store id :=
    store.whenOpen (store.status? id, { store with statusReads := store.statusReads + 1 })
  fetchJob store id := store.whenOpen (store.job? id, store)

end MemoryStore

end JobDesk
