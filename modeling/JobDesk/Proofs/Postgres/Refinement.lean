import JobDesk.Proofs.Coordinator.Simulation
import JobDesk.Proofs.Postgres.Executed
import JobDesk.Proofs.Postgres.Pools
import JobDesk.Proofs.Store.Edits
import Mathlib.Data.List.Forall2

/-!
# Refinement — a table in a database is as good as one in memory

A repository on a link to a database that executes the texts of its statements answers as a table in
memory does, but for the times in jobs, whatever is asked of both and whatever others do to them.
-/

namespace JobDesk.Postgres

open Sql (Database byCode byId deletion isMatch jobDatabase)

/-! ## 1. Rows -/

def Holds (row : List Cell) (entry : Int64 × Job) : Prop :=
  ∃ time, row = [.int entry.1.toInt, .int entry.2.status.toInt, .bytes entry.2.payload, .int time]

variable {row : List Cell} {entry : Int64 × Job} {rows : List (List Cell)}
  {entries : List (Int64 × Job)} {store : MemoryStore} {issued : Nat}

theorem Holds.isMatch_byId (h : Holds row entry) (id : Int64) :
    isMatch [byId id] row = (entry.1 == id) := by
  obtain ⟨time, rfl⟩ := h
  exact Sql.isMatch_byId entry.1 id _

theorem Holds.isMatch_byCode (h : Holds row entry) (id : Int64) (code : Int16) :
    isMatch [byId id, byCode code] row = (entry.1 == id && entry.2.status == code) := by
  obtain ⟨time, rfl⟩ := h
  exact Sql.isMatch_byCode entry.1 id entry.2.status code _

theorem Holds.set (h : Holds row entry) (code : Int16) :
    Holds (row.set 1 (.int code.toInt)) (entry.1, { entry.2 with status := code }) := by
  obtain ⟨time, rfl⟩ := h
  exact ⟨time, rfl⟩

theorem holds_filter {p : List Cell → Bool} {q : Int64 × Job → Bool}
    (h : List.Forall₂ Holds rows entries) (hpick : ∀ row entry, Holds row entry → p row = q entry) :
    List.Forall₂ Holds (rows.filter p) (entries.filter q) := by
  induction h with
  | nil => exact .nil
  | cons hfirst _ ih =>
    rw [List.filter_cons, List.filter_cons, hpick _ _ hfirst]
    split
    · exact .cons hfirst ih
    · exact ih

/-- A code that is written to the rows and to the entries that are picked out alike. -/
theorem holds_map {p : List Cell → Bool} {q : Int64 × Job → Bool}
    (h : List.Forall₂ Holds rows entries)
    (hpick : ∀ row, ∀ entry ∈ entries, Holds row entry → p row = q entry) (code : Int16) :
    List.Forall₂ Holds (rows.map fun row => if p row then row.set 1 (.int code.toInt) else row)
      (entries.map fun entry =>
        (entry.1, if q entry then { entry.2 with status := code } else entry.2)) := by
  induction h with
  | nil => exact .nil
  | cons hfirst _ ih =>
    have hrest := ih fun row entry hmem => hpick row entry (List.mem_cons_of_mem _ hmem)
    rw [List.map_cons, List.map_cons, hpick _ _ List.mem_cons_self hfirst]
    refine .cons ?_ hrest
    split
    · exact hfirst.set code
    · exact hfirst

theorem filter_byId (h : List.Forall₂ Holds rows store.rows) (hsound : store.Sound issued)
    (id : Int64) :
    (store.job? id = none ∧ rows.filter (isMatch [byId id]) = []) ∨
      ∃ job row, store.job? id = some job ∧ rows.filter (isMatch [byId id]) = [row] ∧
        Holds row (id, job) := by
  have hfound := holds_filter h fun row entry hrow => hrow.isMatch_byId id
  rw [hsound.filter_rows id] at hfound
  cases hjob : store.job? id with
  | none =>
    rw [hjob] at hfound
    exact .inl ⟨rfl, List.forall₂_nil_right_iff.mp hfound⟩
  | some job =>
    rw [hjob] at hfound
    obtain ⟨row, rest, hrow, hrest, heq⟩ := List.forall₂_cons_right_iff.mp hfound
    rw [List.forall₂_nil_right_iff.mp hrest] at heq
    exact .inr ⟨job, row, rfl, heq, hrow⟩

/-- A conditional write picks a row out if it is the one of the job and the job has the code. -/
theorem Holds.isMatch_status (h : Holds row entry) (hsound : store.Sound issued)
    (hmem : entry ∈ store.rows) (id : Int64) (code : Int16) :
    isMatch [byId id, byCode code] row =
      (entry.1 == id && decide (store.status? id = some code)) := by
  rw [h.isMatch_byCode]
  by_cases hid : entry.1 = id
  · subst hid
    rw [MemoryStore.status?, hsound.job?_of_mem hmem]
    simp only [Option.map_some, Option.some.injEq, beq_self_eq_true, Bool.true_and]
    rfl
  · simp only [beq_eq_false_iff_ne.mpr hid, Bool.false_and]

theorem countP_byCode (h : List.Forall₂ Holds rows store.rows) (hsound : store.Sound issued)
    (id : Int64) (code : Int16) :
    rows.countP (isMatch [byId id, byCode code]) =
      if store.status? id = some code then 1 else 0 := by
  have hcount := (holds_filter h fun row entry hrow => hrow.isMatch_byCode id code).length_eq
  have hsplit : store.rows.filter (fun entry => entry.1 == id && entry.2.status == code) =
      (store.rows.filter (·.1 == id)).filter (·.2.status == code) := by
    rw [List.filter_filter]
    exact List.filter_congr fun _ _ => Bool.and_comm _ _
  rw [List.countP_eq_length_filter, hcount, hsplit, hsound.filter_rows id, MemoryStore.status?]
  cases store.job? id with
  | none => rfl
  | some job => by_cases hcode : job.status = code <;> simp [hcode]

/-! ## 2. Links to a database -/

/-- What others can do to the database of a link: write codes, remove jobs, and let time pass. -/
structure Others (L : Type) where
  write : L → (table : String) → Int64 → Int16 → L
  remove : L → (table : String) → Int64 → L
  tick : L → Moment → L

/-- A link to a database, which `view` looks at: it can be reached, and it executes the texts of
statements with their parameters, also those of others. -/
structure Serves {L : Type} [Link L] (view : L → Database) (others : Others L) : Prop where
  connect : ∀ link target, ∃ after,
    Link.connect link target = (.connected, after) ∧ view after = view link
  execute : ∀ link table statement, ∃ after,
    Link.execute link table statement = (((view link).reply table statement).1, after) ∧
      view after = ((view link).reply table statement).2
  write : ∀ link table id code, view (others.write link table id code) =
    ((view link).reply table (.setStatus id code)).2
  remove : ∀ link table id, view (others.remove link table id) =
    ((view link).answer (deletion table) [.int8 id]).2
  tick : ∀ link time, ∃ now, view (others.tick link time) = { view link with now := now }

def Others.ofDatabase : Others Database where
  write db table id code := (db.reply table (.setStatus id code)).2
  remove db table id := (db.answer (deletion table) [.int8 id]).2
  tick db time := { db with now := TablePeer.micros time }

theorem serves_database : Serves id Others.ofDatabase where
  connect link _ := ⟨link, rfl, rfl⟩
  execute _ _ _ := ⟨_, rfl, rfl⟩
  write _ _ _ _ := rfl
  remove _ _ _ := rfl
  tick _ _ := ⟨_, rfl⟩

namespace Repository

variable {L α : Type} [Link L] {view : L → Database} {others : Others L}
  {repository : Repository L} {statement : Statement}

/-- A repository on the same table of the same pool, which is open, with a given database. -/
structure Goes (view : L → Database) (repository next : Repository L) (after : Database) :
    Prop where
  pool : next.pool = repository.pool
  table : next.table = repository.table
  isOpen : next.backend.isClosed next.pool = false
  database : view next.backend.link = after

omit [Link L] in
theorem open_pool (hopen : repository.backend.isClosed repository.pool = false) :
    ∃ p, repository.backend.pool? repository.pool = some p ∧ p.isClosed = false := by
  unfold Backend.isClosed at hopen
  cases hpool : repository.backend.pool? repository.pool with
  | none =>
    rw [hpool] at hopen
    cases hopen
  | some p =>
    rw [hpool] at hopen
    exact ⟨p, rfl, hopen⟩

theorem acquire_spec {V : Type} {look : L → V}
    (hconnect : ∀ link target, ∃ after,
      Link.connect link target = (.connected, after) ∧ look after = look link)
    (hopen : repository.backend.isClosed repository.pool = false) :
    ∃ acquired, repository.backend.acquire repository.pool = (.ok (), acquired) ∧
      look acquired.link = look repository.backend.link := by
  obtain ⟨p, hpool, hclosed⟩ := open_pool hopen
  unfold Backend.acquire
  rw [hpool]
  simp only [hclosed]
  by_cases hconnected : p.isConnected = true
  · exact ⟨repository.backend, by rw [hconnected]; rfl, rfl⟩
  · obtain ⟨after, hconnect, hlook⟩ := hconnect repository.backend.link p.target
    rw [hconnect, Bool.eq_false_iff.mpr hconnected]
    exact ⟨_, rfl, hlook⟩

/-- A statement that a link executes is answered by what is decoded of its rows, over a connection
that is as good as the link is now. -/
theorem ask_executed {V : Type} {look : L → V}
    (hconnect : ∀ link target, ∃ after,
      Link.connect link target = (.connected, after) ∧ look after = look link)
    (hopen : repository.backend.isClosed repository.pool = false) (Result : Rows → L → Prop)
    (hexecute : ∀ link, look link = look repository.backend.link → ∃ rows after,
      Link.execute link repository.table statement = (.rows rows, after) ∧ Result rows after)
    (decode : Rows → Except StoreError α) :
    ∃ rows next, repository.ask statement decode = (decode rows, next) ∧
      next.pool = repository.pool ∧ next.table = repository.table ∧
      next.backend.isClosed next.pool = false ∧ Result rows next.backend.link := by
  obtain ⟨acquired, hacquire, hacquired⟩ := acquire_spec hconnect hopen
  obtain ⟨rows, link, hexecute, hresult⟩ := hexecute acquired.link hacquired
  have hclosings := repository.closings_ask statement decode
  have hask : repository.ask statement decode =
      (decode rows, { repository with backend := { acquired with link := link } }) := by
    simp only [ask, Backend.execute, hacquire, hexecute]
  rw [hask] at hclosings
  refine ⟨rows, _, hask, rfl, rfl, ?_, hresult⟩
  rw [Backend.isClosed_eq, hclosings, ← Backend.isClosed_eq]
  exact hopen

/-- A statement that the database executes is answered by what is decoded of its rows. -/
theorem ask_spec (hserves : Serves view others)
    (hopen : repository.backend.isClosed repository.pool = false) {rows : Rows} {after : Database}
    (hreply : (view repository.backend.link).reply repository.table statement =
      (.rows rows, after)) (decode : Rows → Except StoreError α) :
    ∃ next, repository.ask statement decode = (decode rows, next) ∧
      Goes view repository next after := by
  obtain ⟨rows', next, hask, hpool, htable, hisOpen, rfl, hview⟩ :=
    ask_executed hserves.connect hopen (fun found link => found = rows ∧ view link = after)
      (fun link hlink => by
        obtain ⟨next, hexecute, hnext⟩ := hserves.execute link repository.table statement
        rw [hlink, hreply] at hexecute hnext
        exact ⟨rows, next, hexecute, rfl, hnext⟩) decode
  exact ⟨next, hask, hpool, htable, hisOpen, hview⟩

theorem ask_closed (hclosed : repository.backend.isClosed repository.pool = true)
    (decode : Rows → Except StoreError α) :
    repository.ask statement decode = (.error .poolClosed, repository) := by
  have hacquire : repository.backend.acquire repository.pool =
      (.error .poolClosed, repository.backend) := by
    unfold Backend.isClosed at hclosed
    unfold Backend.acquire
    cases hpool : repository.backend.pool? repository.pool with
    | none => rfl
    | some p =>
      rw [hpool] at hclosed
      exact if_pos hclosed
  simp only [ask, Backend.execute, hacquire]

end Repository

/-! ## 3. Operations -/

def Repository.outside {L : Type} (others : Others L) : Outside (Repository L) where
  setCode repository id code :=
    { repository with backend := { repository.backend with
        link := others.write repository.backend.link repository.table id code } }
  delete repository id :=
    { repository with backend := { repository.backend with
        link := others.remove repository.backend.link repository.table id } }
  close repository := { repository with backend := repository.backend.close repository.pool }
  tick repository now :=
    { repository with backend := { repository.backend with
        link := others.tick repository.backend.link now } }

/-- A repository whose table holds the rows of a table in memory, and which is closed if that is;
both have handed out at most `n` ids. -/
structure Mirrors {L : Type} (view : L → Database) (n : Nat) (repository : Repository L)
    (store : MemoryStore) : Prop where
  name : isIdentifier repository.table = true
  closed : repository.backend.isClosed repository.pool = store.isClosed
  rows : ∃ issued ≤ n, ∃ rows now, store.Sound issued ∧
    view repository.backend.link = jobDatabase repository.table rows issued now ∧
    List.Forall₂ Holds rows store.rows

variable {L α β : Type} [Link L] {view : L → Database} {others : Others L} {n : Nat}
  {repository next : Repository L} {store after : MemoryStore}

omit [Link L] in
theorem Mirrors.weaken (h : Mirrors view n repository store) {m : Nat} (hle : n ≤ m) :
    Mirrors view m repository store := by
  obtain ⟨hname, hclosed, issued, hissued, hrows⟩ := h
  exact ⟨hname, hclosed, issued, Nat.le_trans hissued hle, hrows⟩

/-- What a statement must find in the rows of the memory, and what it must make of them: the value
and the rows of an operation on the memory. -/
def Finds (table : String) (statement : Statement) (decode : Rows → Except StoreError α)
    (shown : α → β) (store : MemoryStore) (n m : Nat) (operation : α × MemoryStore) : Prop :=
  ∀ issued ≤ n, ∀ rows now, store.Sound issued → List.Forall₂ Holds rows store.rows →
    ∃ found rows', ∃ issued' ≤ m,
      (jobDatabase table rows issued now).reply table statement =
        (.rows found, jobDatabase table rows' issued' now) ∧
      (decode found).map shown = .ok (shown operation.1) ∧
      operation.2.Sound issued' ∧ List.Forall₂ Holds rows' operation.2.rows

/-- A statement that finds the rows of the memory answers as the operation on the memory does. -/
theorem Mirrors.ask (hserves : Serves view others) (h : Mirrors view n repository store) {m : Nat}
    (hle : n ≤ m) {statement : Statement} {decode : Rows → Except StoreError α} {shown : α → β}
    {operation : α × MemoryStore} (hkept : operation.2.isClosed = store.isClosed)
    (hfinds : Finds repository.table statement decode shown store n m operation) :
    (repository.ask statement decode).1.map shown = (store.whenOpen operation).1.map shown ∧
      Mirrors view m (repository.ask statement decode).2 (store.whenOpen operation).2 := by
  unfold MemoryStore.whenOpen
  cases hclosed : store.isClosed with
  | true =>
    rw [Repository.ask_closed (h.closed.trans hclosed)]
    exact ⟨rfl, h.weaken hle⟩
  | false =>
    obtain ⟨issued, hissued, rows, now, hsound, hdatabase, hrows⟩ := h.rows
    obtain ⟨found, rows', issued', hissued', hreply, hdecode, hsound', hrows'⟩ :=
      hfinds issued hissued rows now hsound hrows
    rw [← hdatabase] at hreply
    obtain ⟨next, hask, hgoes⟩ := Repository.ask_spec hserves (h.closed.trans hclosed) hreply decode
    rw [hask]
    refine ⟨hdecode, hgoes.table ▸ h.name, ?_, issued', hissued', rows', now, hsound', ?_, hrows'⟩
    · exact hgoes.isOpen.trans (hkept.trans hclosed).symm
    · exact hgoes.table ▸ hgoes.database

theorem Mirrors.sameResult (hserves : Serves view others) (h : Mirrors view n repository store)
    {m : Nat} (hle : n ≤ m) {statement : Statement} {decode : Rows → Except StoreError α}
    {operation : α × MemoryStore} (hkept : operation.2.isClosed = store.isClosed)
    (hfinds : Finds repository.table statement decode id store n m operation) :
    SameResult (Mirrors view m) (repository.ask statement decode) (store.whenOpen operation) := by
  obtain ⟨hresult, hafter⟩ := h.ask hserves hle hkept hfinds
  exact ⟨by simpa only [Except.map_id, id_eq] using hresult, hafter⟩

/-! ## 4. Each operation -/

variable {table : String}

theorem finds_insert (hname : isIdentifier table = true) (hroom : n + 1 < idLimit)
    (store : MemoryStore) (payload : Bytes) :
    Finds table (.insert payload) (Repository.ofOne (Rows.scalar int8)) id store n (n + 1)
      (store.lastId + 1, store.append payload) := by
  intro issued hissued rows now hsound hrows
  have hlimit : issued + 1 < idLimit := by omega
  have hnext : (store.lastId + 1).toInt = (issued : Int) + 1 :=
    MemoryStore.toInt_succ hsound.lastId hlimit
  have hserial : (issued : Int) + 1 ≤ Sql.sequenceLimit := by
    unfold idLimit at hlimit
    unfold Sql.sequenceLimit
    omega
  have hdecoded : Int64.ofInt ((issued : Int) + 1) = store.lastId + 1 := by
    rw [← hnext, Int64.ofInt_toInt]
  refine ⟨_, _, issued + 1, by omega, Sql.reply_insert hname hserial payload, ?_,
    hsound.append hlimit payload, ?_⟩
  · exact congrArg Except.ok hdecoded
  · refine List.rel_append hrows (.cons ⟨now, ?_⟩ .nil)
    rw [hnext]
    rfl

theorem finds_setStatus (hname : isIdentifier table = true) (store : MemoryStore) (key : Int64)
    (code : Int16) :
    Finds table (.setStatus key code) (fun _ => .ok ()) id store n n
      ((), store.setCode key code) := by
  intro issued hissued rows now hsound hrows
  exact ⟨_, _, issued, hissued, Sql.reply_setStatus hname key code, rfl, hsound.setCode key code,
    holds_map hrows (fun _ _ _ hrow => hrow.isMatch_byId key) code⟩

theorem finds_setStatusIf (hname : isIdentifier table = true) (store : MemoryStore) (key : Int64)
    (expected new : Int16) :
    Finds table (.setStatusIf key expected new) (fun rows => .ok (decide (0 < rows.affected))) id
      store n n
      (if store.status? key = some expected then (true, store.setCode key new)
        else (false, store)) := by
  intro issued hissued rows now hsound hrows
  have hcount := countP_byCode hrows hsound key expected
  have hwritten := holds_map hrows
    (fun _ _ hmem hrow => hrow.isMatch_status hsound hmem key expected) new
  have hreply :
      (jobDatabase table rows issued now).reply table (.setStatusIf key expected new) = _ :=
    Sql.reply_setStatusIf hname key expected new
  by_cases hcode : store.status? key = some expected
  · rw [hcount, if_pos hcode] at hreply
    simp only [hcode, decide_true, Bool.and_true] at hwritten
    rw [if_pos hcode]
    exact ⟨_, _, issued, hissued, hreply, rfl, hsound.setCode key new, hwritten⟩
  · rw [hcount, if_neg hcode] at hreply
    simp only [hcode, decide_false, Bool.and_false, Bool.false_eq_true, if_false, Prod.eta,
      List.map_id'] at hwritten
    rw [if_neg hcode]
    exact ⟨_, _, issued, hissued, hreply, rfl, hsound, hwritten⟩

theorem finds_fetchStatus (hname : isIdentifier table = true) (store : MemoryStore) (key : Int64) :
    Finds table (.fetchStatus key) (Repository.ofFirst (Rows.scalar int2)) id store n n
      (store.status? key, { store with statusReads := store.statusReads + 1 }) := by
  intro issued hissued rows now hsound hrows
  refine ⟨_, rows, issued, hissued, Sql.reply_fetchStatus hname key, ?_,
    hsound.sameRows ⟨rfl, rfl, rfl⟩, hrows⟩
  rw [MemoryStore.status?]
  obtain ⟨hjob, hfound⟩ | ⟨job, row, hjob, hfound, time, rfl⟩ := filter_byId hrows hsound key
  · rw [hjob, hfound]
    rfl
  · rw [hjob, hfound]
    exact congrArg (fun code => Except.ok (some code)) (Int16.ofInt_toInt job.status)

theorem finds_fetchJob (hname : isIdentifier table = true) (store : MemoryStore) (key : Int64) :
    Finds table (.fetchJob key) (Repository.ofFirst Rows.job) (Option.map Job.timeless) store n n
      (store.job? key, store) := by
  intro issued hissued rows now hsound hrows
  refine ⟨_, rows, issued, hissued, Sql.reply_fetchJob hname key, ?_, hsound, hrows⟩
  obtain ⟨hjob, hfound⟩ | ⟨job, row, hjob, hfound, time, rfl⟩ := filter_byId hrows hsound key
  · rw [hjob, hfound]
    rfl
  · have hid : job.id = key := hsound.id_of_job? hjob
    rw [hjob, hfound]
    show Except.ok (some (Job.timeless ⟨Int64.ofInt key.toInt, Int16.ofInt job.status.toInt,
      job.payload, Moment.ofMicros time⟩)) = Except.ok (some job.timeless)
    rw [Int64.ofInt_toInt, Int16.ofInt_toInt, ← hid]
    rfl

/-! ## 5. Others -/

omit [Link L] in
/-- An edit of the rows on the link that is one of the rows in memory, too, keeps the two alike. -/
theorem Mirrors.edit (h : Mirrors view n repository store) {link : L}
    (hkept : after.isClosed = store.isClosed)
    (hedit : ∀ issued ≤ n, ∀ rows now, store.Sound issued →
      view repository.backend.link = jobDatabase repository.table rows issued now →
      List.Forall₂ Holds rows store.rows → ∃ rows' now',
        view link = jobDatabase repository.table rows' issued now' ∧ after.Sound issued ∧
          List.Forall₂ Holds rows' after.rows) :
    Mirrors view n { repository with backend := { repository.backend with link := link } }
      after := by
  obtain ⟨hname, hclosed, issued, hissued, rows, now, hsound, hdatabase, hrows⟩ := h
  obtain ⟨rows', now', hview, hsound', hrows'⟩ :=
    hedit issued hissued rows now hsound hdatabase hrows
  exact ⟨hname, hclosed.trans hkept.symm, issued, hissued, rows', now', hsound', hview, hrows'⟩

theorem Mirrors.setCode (hserves : Serves view others) (h : Mirrors view n repository store)
    (id : Int64) (code : Int16) :
    Mirrors view n ((Repository.outside others).setCode repository id code)
      (store.setCode id code) := by
  refine h.edit rfl fun issued hissued rows now hsound hdatabase hrows => ?_
  refine ⟨_, now, ?_, hsound.setCode id code,
    holds_map hrows (fun _ _ _ hrow => hrow.isMatch_byId id) code⟩
  rw [hserves.write, hdatabase, Sql.reply_setStatus h.name]

theorem Mirrors.delete (hserves : Serves view others) (h : Mirrors view n repository store)
    (id : Int64) :
    Mirrors view n ((Repository.outside others).delete repository id) (store.delete id) := by
  refine h.edit rfl fun issued hissued rows now hsound hdatabase hrows => ?_
  have hpick : ∀ row entry, Holds row entry →
      (!isMatch [byId id] row) = (entry.1 != id) := fun row entry hrow =>
    congrArg not (hrow.isMatch_byId id)
  refine ⟨_, now, ?_, hsound.delete id, holds_filter hrows hpick⟩
  rw [hserves.remove, hdatabase, Sql.answer_deletion h.name]

theorem Mirrors.tick (hserves : Serves view others) (h : Mirrors view n repository store)
    (time : Moment) :
    Mirrors view n ((Repository.outside others).tick repository time)
      { store with now := time } := by
  refine h.edit rfl fun issued hissued rows now hsound hdatabase hrows => ?_
  obtain ⟨now', hview⟩ := hserves.tick repository.backend.link time
  refine ⟨rows, now', ?_, ⟨hsound.lastId, hsound.keyed, hsound.ordered⟩, hrows⟩
  exact hview.trans (by rw [hdatabase]; rfl)

omit [Link L] in
theorem Mirrors.close (h : Mirrors view n repository store) :
    Mirrors view n ((Repository.outside others).close repository) store.close := by
  obtain ⟨hname, hclosed, issued, hissued, rows, now, hsound, hdatabase, hrows⟩ := h
  refine ⟨hname, ?_, issued, hissued, rows, now, ⟨hsound.lastId, hsound.keyed, hsound.ordered⟩,
    hdatabase, hrows⟩
  exact Backend.isClosed_close _ _

/-- A repository on a link to a database and a table in memory answer each operation alike. -/
theorem simulates (hserves : Serves view others) :
    Simulates (Repository.outside others) MemoryStore.outside (Mirrors view) where
  weaken h := h.weaken (Nat.le_succ _)
  insert h hroom payload :=
    h.sameResult hserves (Nat.le_succ _) rfl (finds_insert h.name hroom _ payload)
  setStatus h id status :=
    h.sameResult hserves (Nat.le_refl _) rfl (finds_setStatus h.name _ id status.code)
  setStatusIf h id expected new :=
    h.sameResult hserves (Nat.le_refl _) (by split <;> rfl)
      (finds_setStatusIf h.name _ id expected.code new.code)
  fetchStatus h id := h.sameResult hserves (Nat.le_refl _) rfl (finds_fetchStatus h.name _ id)
  fetchJob h id := h.ask hserves (Nat.le_refl _) rfl (finds_fetchJob h.name _ id)
  setCode h id code := h.setCode hserves id code
  delete h id := h.delete hserves id
  close h := h.close
  tick h now := h.tick hserves now

/-! ## 6. Sequences -/

/-- The rows of a database but for their times, if it has a table. -/
def shownRows? (db : Database) : Option (List (List Cell)) :=
  db.table?.map fun table => table.rows.map (·.take 3)

/-- The rows that a database has for the jobs of a table in memory, but for their times. -/
def shownJobs (store : MemoryStore) : List (List Cell) :=
  store.rows.map fun (_, job) => [.int job.id.toInt, .int job.status.toInt, .bytes job.payload]

omit [Link L] in
theorem Mirrors.shownRows (h : Mirrors view n repository store) :
    shownRows? (view repository.backend.link) = some (shownJobs store) := by
  obtain ⟨-, -, issued, -, rows, now, hsound, hdatabase, hrows⟩ := h
  have hshown : ∀ rows : List (List Cell), ∀ entries : List (Int64 × Job),
      List.Forall₂ Holds rows entries → (∀ entry ∈ entries, entry.2.id = entry.1) →
      rows.map (·.take 3) = entries.map fun (_, job) =>
        [.int job.id.toInt, .int job.status.toInt, .bytes job.payload] := by
    intro rows entries hheld hkeyed
    induction hheld with
    | nil => rfl
    | cons hfirst _ ih =>
      obtain ⟨hid, hrest⟩ := List.forall_mem_cons.mp hkeyed
      obtain ⟨time, rfl⟩ := hfirst
      rw [List.map_cons, List.map_cons, ih hrest]
      simp only [hid, List.take_succ_cons, List.take_zero]
  rw [hdatabase]
  exact congrArg some (hshown _ _ hrows fun entry hentry => (hsound.keyed entry hentry).2.2)

theorem ensureTable_blank (hserves : Serves view others)
    (hname : isIdentifier repository.table = true)
    (hopen : repository.backend.isClosed repository.pool = false)
    (hblank : (view repository.backend.link).table? = none) (time : Moment) :
    ∃ empty, repository.ensureTable = (.ok (), empty) ∧
      Mirrors view 0 empty { now := time } := by
  obtain ⟨now, hview⟩ : ∃ now, view repository.backend.link = ⟨none, now⟩ :=
    ⟨_, by rw [← hblank]⟩
  have hcreate : (view repository.backend.link).reply repository.table .createTable =
      (.rows (Sql.tagged "CREATE TABLE"), jobDatabase repository.table [] 0 now) := by
    rw [hview]
    exact Sql.reply_createTable hname
  obtain ⟨made, hmade, hgoes⟩ :=
    Repository.ask_spec hserves hopen hcreate fun _ => Except.ok ()
  have hindex : (view made.backend.link).reply made.table .createIndex =
      (.rows (Sql.tagged "CREATE INDEX"), jobDatabase repository.table [] 0 now) := by
    rw [hgoes.database, hgoes.table]
    exact Sql.reply_createIndex hname
  obtain ⟨empty, hempty, hstays⟩ :=
    Repository.ask_spec hserves hgoes.isOpen hindex fun _ => Except.ok ()
  have htable := hstays.table.trans hgoes.table
  refine ⟨empty, ?_, htable ▸ hname, hstays.isOpen, 0, Nat.le_refl 0, [], now,
    MemoryStore.sound_empty time, ?_, .nil⟩
  · simp only [Repository.ensureTable, hmade, hempty]
  · rw [hstays.database, htable]
    rfl

/-- Whatever is asked of a repository and of a table in memory, both of which are empty at first,
and whatever others do to both, they give the same findings, but for the times in jobs, and come to
have the same rows. -/
theorem refines_memory (hserves : Serves view others) (hname : isIdentifier repository.table = true)
    (hopen : repository.backend.isClosed repository.pool = false)
    (hblank : (view repository.backend.link).table? = none) (time : Moment) (c : Coordinator)
    (operations : List Operation) (hroom : operations.countP (·.isInsertion) < idLimit) :
    ∃ empty, repository.ensureTable = (.ok (), empty) ∧
      let ours := Operation.run (Repository.outside others) c empty operations
      let theirs := Operation.run MemoryStore.outside c { now := time } operations
      ours.1.map Finding.timeless = theirs.1.map Finding.timeless ∧ ours.2.1 = theirs.2.1 ∧
        shownRows? (view ours.2.2.backend.link) = some (shownJobs theirs.2.2) := by
  obtain ⟨empty, hmade, hempty⟩ := ensureTable_blank hserves hname hopen hblank time
  obtain ⟨hfindings, hcoordinator, hlast⟩ := (simulates hserves).run hempty c operations
    (by rwa [Nat.zero_add])
  exact ⟨empty, hmade, hfindings, hcoordinator, hlast.shownRows⟩

def freshRepository : Repository Database := ⟨⟨{}, [⟨default, false, false⟩]⟩, 0, standardTable⟩

/-- Two jobs, of which the first is called off, removed and asked for, and the second comes to have
a code that no status has. -/
def callingOff : List Operation :=
  [.table (.insert #[7]), .submit .null, .cancelIfPending 1, .status 1, .table (.delete 1),
    .status 1, .table (.setCode 2 77), .cancelIfPending 2, .wait 2 ⟨false, false, default⟩ 3]

/-- The first job is called off in time, and the second is left alone. -/
theorem first_called_off :
    ∃ empty, freshRepository.ensureTable = (.ok (), empty) ∧
      let ours := Operation.run (Repository.outside Others.ofDatabase) {} empty callingOff
      (ours.1.map Finding.timeless).map (·.answer) =
          [.id 1, .id 2, .flag true, .code (some 4), .done, .code none, .done, .flag false, .done] ∧
        shownRows? ours.2.2.backend.link = some [[.int 2, .int 77, .bytes #[0, 0, 1]]] := by
  have hname : isIdentifier freshRepository.table = true := by decide
  have hroom : callingOff.countP (·.isInsertion) < idLimit := by decide
  obtain ⟨empty, hmade, hfindings, -, hrows⟩ :=
    refines_memory serves_database hname rfl rfl ⟨0, 0⟩ {} callingOff hroom
  refine ⟨empty, hmade, ?_, ?_⟩
  · rw [hfindings]
    decide +kernel
  · rw [id] at hrows
    rw [hrows]
    decide +kernel

end JobDesk.Postgres
