/-!
# Store errors — what can go wrong between a caller and the job table

Errors of the pool, of the connection, of the database itself and of values that are not what a
column was expected to hold.
-/

namespace JobDesk

inductive StoreError where
  | poolClosed
  | poolTimedOut
  | rowNotFound
  | workerCrashed
  | protocol (reason : String)
  | configuration (reason : String)
  | columnNotFound (column : String)
  | columnOutOfBounds (index count : Nat)
  | columnDecode (column reason : String)
  | typeNotFound (type : String)
  | tls (reason : String)
  | io (reason : String)
  | database (reason : String)
  deriving DecidableEq, Inhabited

namespace StoreError

def message : StoreError → String
  | poolClosed => "attempted to acquire a connection on a closed pool"
  | poolTimedOut => "pool timed out while waiting for an open connection"
  | rowNotFound => "no rows returned by a query that expected to return at least one row"
  | workerCrashed => "attempted to communicate with a crashed background worker"
  | protocol reason => s!"encountered unexpected or invalid data: {reason}"
  | configuration reason => s!"error with configuration: {reason}"
  | columnNotFound column => s!"no column found for name: {column}"
  | columnOutOfBounds index count =>
    s!"column index out of bounds: the len is {count}, but the index is {index}"
  | columnDecode column reason => s!"error occurred while decoding column {column}: {reason}"
  | typeNotFound type => s!"type named {type} not found"
  | tls reason => s!"error occurred while attempting to establish a TLS connection: {reason}"
  | io reason => s!"error communicating with database: {reason}"
  | database reason => s!"error returned from database: {reason}"

def sources : StoreError → List String
  | configuration reason | tls reason | io reason => [reason]
  | _ => []

end StoreError

end JobDesk
