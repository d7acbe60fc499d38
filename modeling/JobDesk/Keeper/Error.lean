import JobDesk.Store.Error

/-!
# Pool errors — why a pool was not taken over

A keeper takes a pool over once.  It refuses settings that break a rule before it connects.
-/

namespace JobDesk

inductive PoolError where
  | initialization (error : StoreError)
  | doubleInitialization
  | invalidConfig (reason : String)
  deriving DecidableEq, Inhabited

namespace PoolError

def message : PoolError → String
  | initialization error => s!"Failed to initialize database pool: {error.message}"
  | doubleInitialization => "Database pool is already initialized"
  | invalidConfig reason => s!"Invalid database configuration: {reason}"

def sources : PoolError → List String
  | initialization error => error.message :: error.sources
  | _ => []

end PoolError

end JobDesk
