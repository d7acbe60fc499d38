import JobDesk.Postgres.Pool

/-!
# TablePeer — a database with one table of jobs

The peer executes each statement on jobs at once and as a whole.  Ids count up from one, a new row
is pending, and an update affects the rows that match.
-/

namespace JobDesk.Postgres

/-- A table of jobs: its rows, the last id given, and the time that new rows are given. -/
structure TablePeer where
  rows : List Job := []
  lastId : Int64 := 0
  now : Moment := ⟨0, 0⟩
  deriving Inhabited

namespace TablePeer

def columns : List Column :=
  [⟨"id", .int8⟩, ⟨"status", .int2⟩, ⟨"search_config", .bytea⟩, ⟨"creation_time", .timestamptz⟩]

def micros (t : Moment) : Int :=
  (t.seconds - 946684800) * 1000000 + t.nanos / 1000

def cells (job : Job) : List Cell :=
  [.int job.id.toInt, .int job.status.toInt, .bytes job.payload, .int (micros job.created)]

def tagged (tag : String) : Reply := .rows ⟨[], [], tag⟩

def update (peer : TablePeer) (isMatch : Job → Bool) (status : Int16) : Reply × TablePeer :=
  (tagged ("UPDATE " ++ toString (peer.rows.countP isMatch)),
    { peer with
      rows := peer.rows.map fun job => if isMatch job then { job with status := status } else job })

def execute (peer : TablePeer) : Statement → Reply × TablePeer
  | .verify => (tagged "SELECT 1", peer)
  | .createTable => (tagged "CREATE TABLE", peer)
  | .createIndex => (tagged "CREATE INDEX", peer)
  | .insert payload =>
    let id := peer.lastId + 1
    (.rows ⟨[⟨"id", .int8⟩], [[.int id.toInt]], "INSERT 0 1"⟩,
      { peer with
        rows := peer.rows ++ [⟨id, Status.pending.code, payload, peer.now⟩]
        lastId := id })
  | .setStatus id status => peer.update (·.id == id) status
  | .setStatusIf id expected new =>
    peer.update (fun job => job.id == id && job.status == expected) new
  | .fetchStatus id =>
    let found := peer.rows.filter (·.id == id)
    (.rows ⟨[⟨"status", .int2⟩], found.map fun job => [.int job.status.toInt],
      "SELECT " ++ toString found.length⟩, peer)
  | .fetchJob id =>
    let found := peer.rows.filter (·.id == id)
    (.rows ⟨columns, found.map cells, "SELECT " ++ toString found.length⟩, peer)

instance : Link TablePeer where
  connect peer _ := (.connected, peer)
  execute peer _ statement := peer.execute statement

end TablePeer

end JobDesk.Postgres
