import JobDesk.Postgres.Repository
import JobDesk.Proofs.Coordinator.Invariant

/-!
# Pools over time — which of them are closed

A statement opens and closes no pool, whatever the database answers to it.  An attempt to connect
opens one, which is closed again if the attempt fails.
-/

namespace JobDesk.Postgres

namespace Backend

variable {L : Type} {backend : Backend L}

/-! ## 1. Closed pools -/

def closings (backend : Backend L) : List Bool := backend.pools.map (·.isClosed)

theorem isClosed_eq (backend : Backend L) (pool : Nat) :
    backend.isClosed pool = (backend.closings[pool]?).all id := by
  simp only [isClosed, pool?, closings, List.getElem?_map, Option.all_map]
  rfl

theorem length_closings (backend : Backend L) : backend.closings.length = backend.pools.length :=
  List.length_map _

/-- A pool that connects, or whose connection ends, is closed if it was before. -/
theorem closings_setConnected (backend : Backend L) (pool : Nat) (isConnected : Bool) :
    (backend.modify pool fun p => { p with isConnected := isConnected }).closings =
      backend.closings := by
  simp only [closings, modify]
  refine List.ext_getElem? fun n => ?_
  simp only [List.getElem?_map, List.getElem?_modify]
  split
  · cases backend.pools[n]? <;> rfl
  · simp

theorem closings_adopt (backend : Backend L) (target : Target) :
    (backend.adopt target).2.closings = backend.closings ++ [false] := by
  simp only [closings, adopt, List.map_append, List.map_cons, List.map_nil]

theorem closings_close (backend : Backend L) (pool : Nat) :
    (backend.close pool).closings = backend.closings.set pool true := by
  simp only [closings, close, modify]
  refine List.ext_getElem? fun n => ?_
  simp only [List.getElem?_map, List.getElem?_modify, List.getElem?_set, List.length_map]
  split
  · rename_i heq
    subst heq
    cases hpool : backend.pools[pool]? with
    | none =>
      rw [if_neg (Nat.not_lt.mpr (List.getElem?_eq_none_iff.mp hpool))]
      rfl
    | some p =>
      rw [if_pos (List.getElem?_eq_some_iff.mp hpool).1]
      rfl
  · simp

theorem closings_close_last {opened : Backend L} {before : List Bool}
    (h : opened.closings = before ++ [false]) :
    (opened.close before.length).closings = before ++ [true] := by
  rw [closings_close, h, List.set_append_right _ _ (Nat.le_refl _), Nat.sub_self]
  rfl

theorem openPools_eq_nil (h : ∀ isClosed ∈ backend.closings, isClosed = true) :
    backend.openPools = [] := by
  rw [openPools, List.filter_eq_nil_iff]
  intro pool _
  rw [isClosed_eq]
  cases hpool : backend.closings[pool]? with
  | none => simp
  | some isClosed => simp [h isClosed (List.mem_of_getElem? hpool)]

/-- Pools are opened, used and closed, but no pool changes its number and no closed pool is opened
again. -/
structure Onward (before after : Backend L) : Prop where
  length : before.pools.length ≤ after.pools.length
  closed : ∀ pool < before.pools.length, before.isClosed pool = true → after.isClosed pool = true

theorem Onward.refl (backend : Backend L) : backend.Onward backend :=
  ⟨Nat.le_refl _, fun _ _ hclosed => hclosed⟩

theorem Onward.isOpen {before after : Backend L} (h : before.Onward after) {pool : Nat}
    (hpool : pool < before.pools.length) (hopen : after.isClosed pool = false) :
    before.isClosed pool = false :=
  Bool.eq_false_iff.mpr fun hclosed => by
    rw [h.closed pool hpool hclosed] at hopen
    cases hopen

theorem onward_of_closings {before after : Backend L} {more : List Bool}
    (h : after.closings = before.closings ++ more) : before.Onward after := by
  have hlength := congrArg List.length h
  rw [List.length_append, before.length_closings, after.length_closings] at hlength
  refine ⟨by omega, fun pool hpool hclosed => ?_⟩
  rw [isClosed_eq] at hclosed ⊢
  rwa [h, List.getElem?_append_left (before.length_closings ▸ hpool)]

theorem isClosed_append {before after : Backend L} {more : List Bool}
    (h : after.closings = before.closings ++ more) (n : Nat) :
    after.isClosed (before.pools.length + n) = (more[n]?).all id := by
  rw [isClosed_eq, h, ← before.length_closings, List.getElem?_append_right (Nat.le_add_right _ _),
    Nat.add_sub_cancel_left]

theorem isClosed_close (backend : Backend L) (pool : Nat) :
    (backend.close pool).isClosed pool = true := by
  rw [isClosed_eq, closings_close, List.getElem?_set_self']
  cases backend.closings[pool]? <;> rfl

theorem onward_close (backend : Backend L) (pool : Nat) : backend.Onward (backend.close pool) := by
  have hlength := congrArg List.length (backend.closings_close pool)
  rw [List.length_set, length_closings, length_closings] at hlength
  refine ⟨by omega, fun other _ hclosed => ?_⟩
  rw [isClosed_eq] at hclosed ⊢
  rw [closings_close, List.getElem?_set]
  split
  · split <;> rfl
  · exact hclosed

/-! ## 2. Connected pools -/

def HasConnection (backend : Backend L) (pool : Nat) : Prop :=
  ∃ p, backend.pool? pool = some p ∧ p.isConnected = true ∧ p.isClosed = false

theorem HasConnection.of_pools {after : Backend L} {pool : Nat} (h : backend.HasConnection pool)
    (hpools : after.pools = backend.pools) : after.HasConnection pool := by
  rw [HasConnection, pool?, hpools]
  exact h

theorem hasConnection_append {before : List Pool} {target : Target}
    (h : backend.pools = before ++ [⟨target, true, false⟩]) : backend.HasConnection before.length :=
  ⟨⟨target, true, false⟩, by simp [pool?, h], rfl, rfl⟩

/-! ## 3. Statements and attempts to connect -/

variable [Link L]

theorem closings_acquire (backend : Backend L) (pool : Nat) :
    (backend.acquire pool).2.closings = backend.closings := by
  unfold acquire
  split
  · rfl
  split
  · rfl
  split
  · rfl
  simp only
  split
  · exact closings_setConnected _ pool true
  · rfl
  · rfl

theorem closings_execute (backend : Backend L) (pool : Nat) (table : String)
    (statement : Statement) :
    (backend.execute pool table statement).2.closings = backend.closings := by
  have hacquire := backend.closings_acquire pool
  unfold execute
  split
  · rename_i heq
    rw [heq] at hacquire
    exact hacquire
  · rename_i acquired heq
    rw [heq] at hacquire
    simp only
    split
    · exact hacquire
    · exact hacquire
    · exact (closings_setConnected _ pool false).trans hacquire

/-- The pool of an attempt to connect comes behind the others; it is closed if the attempt fails. -/
theorem connect_closings (backend : Backend L) (target : Target) :
    (∃ opened, backend.connect target = (.ok backend.pools.length, opened) ∧
      opened.closings = backend.closings ++ [false]) ∨
    ∃ error failed, backend.connect target = (.error error, failed) ∧
      failed.closings = backend.closings ++ [true] := by
  have hadopt := backend.closings_adopt target
  unfold connect
  simp only
  have hacquire := (backend.adopt target).2.closings_acquire (backend.adopt target).1
  generalize (backend.adopt target).2.acquire (backend.adopt target).1 = acquired at hacquire ⊢
  obtain ⟨result, opened⟩ := acquired
  simp only [hadopt] at hacquire
  cases result with
  | ok _ => exact .inl ⟨opened, rfl, hacquire⟩
  | error error =>
    refine .inr ⟨error, _, rfl, ?_⟩
    -- The number of the new pool is the number of pools before it.
    have hclose := closings_close_last hacquire
    rw [length_closings] at hclose
    exact hclose

theorem acquire_of_hasConnection {pool : Nat} (h : backend.HasConnection pool) :
    backend.acquire pool = (.ok (), backend) := by
  obtain ⟨p, hpool, hconnected, hopen⟩ := h
  simp [acquire, hpool, hconnected, hopen]

/-- What a statement on a connected pool comes to if it is answered with rows. -/
theorem execute_of_rows {pool : Nat} {table : String} {statement : Statement} {rows : Rows}
    {link : L} (h : backend.HasConnection pool)
    (hrows : Link.execute backend.link table statement = (.rows rows, link)) :
    backend.execute pool table statement = (.ok rows, { backend with link := link }) := by
  simp only [execute, acquire_of_hasConnection h, hrows]

/-- A statement that succeeds on a connected pool leaves all pools as they were. -/
theorem pools_execute {after : Backend L} {pool : Nat} {table : String} {statement : Statement}
    {rows : Rows} (h : backend.HasConnection pool)
    (hok : backend.execute pool table statement = (.ok rows, after)) :
    after.pools = backend.pools := by
  simp only [execute, acquire_of_hasConnection h] at hok
  split at hok
  · exact (congrArg (·.2.pools) hok).symm
  · cases congrArg Prod.fst hok
  · cases congrArg Prod.fst hok

/-- What an attempt to connect comes to if the link is reached: a new pool behind the others, open
and connected. -/
theorem connect_of_connected {target : Target} {link : L}
    (h : Link.connect backend.link target = (.connected, link)) :
    backend.connect target = (.ok backend.pools.length,
      ⟨link, backend.pools ++ [⟨target, true, false⟩]⟩) := by
  simp only [connect, adopt, acquire, pool?, List.getElem?_concat_length, Bool.false_eq_true,
    if_false, h]
  exact congrArg (fun pools => (_, Backend.mk link pools))
    (List.modifyTailIdx_add _ 0 backend.pools [⟨target, false, false⟩])

/-- An attempt to connect that succeeds has opened a pool behind all others, and connected it. -/
theorem pools_connect {after : Backend L} {target : Target} {pool : Nat}
    (hok : backend.connect target = (.ok pool, after)) :
    pool = backend.pools.length ∧ after.pools = backend.pools ++ [⟨target, true, false⟩] := by
  cases hanswer : Link.connect backend.link target with
  | mk answer link =>
    cases answer with
    | connected =>
      rw [connect_of_connected hanswer] at hok
      cases hok
      exact ⟨rfl, rfl⟩
    | refused | failed =>
      simp only [connect, adopt, acquire, pool?, List.getElem?_concat_length, Bool.false_eq_true,
        if_false, hanswer] at hok
      cases hok

end Backend

/-- A link that is reached and answers some statements with rows, for as long as it `isUp`. -/
structure Answers {L : Type} [Link L] (isUp : L → Prop) (statements : List Statement) : Prop where
  connect : ∀ link target, isUp link → ∃ after,
    Link.connect link target = (.connected, after) ∧ isUp after
  execute : ∀ link table, ∀ statement ∈ statements, isUp link → ∃ rows after,
    Link.execute link table statement = (.rows rows, after) ∧ isUp after

/-! ## 4. Repositories -/

namespace Repository

variable {L α : Type} [Link L]

theorem closings_ask (repository : Repository L) (statement : Statement)
    (decode : Rows → Except StoreError α) :
    (repository.ask statement decode).2.backend.closings = repository.backend.closings := by
  rw [← repository.backend.closings_execute repository.pool repository.table statement]
  unfold ask
  simp only
  split <;> rfl

theorem closings_ensureTable (repository : Repository L) :
    repository.ensureTable.2.backend.closings = repository.backend.closings := by
  have hcreate := repository.closings_ask .createTable fun _ => .ok ()
  unfold ensureTable
  split
  · rename_i heq
    rw [heq] at hcreate
    exact hcreate
  · rename_i created heq
    rw [heq] at hcreate
    exact (created.closings_ask .createIndex _).trans hcreate

/-- A statement that succeeds on a connected pool leaves the repository and all pools as they were.
-/
theorem pools_ask {repository after : Repository L} {statement : Statement}
    {decode : Rows → Except StoreError α} {a : α}
    (h : repository.backend.HasConnection repository.pool)
    (hok : repository.ask statement decode = (.ok a, after)) :
    after = { repository with backend := after.backend } ∧
      after.backend.pools = repository.backend.pools := by
  unfold ask at hok
  cases hexecute : repository.backend.execute repository.pool repository.table statement with
  | mk result backend =>
    rw [hexecute] at hok
    cases result with
    | error error => cases congrArg Prod.fst hok
    | ok rows =>
      obtain rfl := congrArg Prod.snd hok
      exact ⟨rfl, Backend.pools_execute h hexecute⟩

theorem pools_ensureTable {repository after : Repository L}
    (h : repository.backend.HasConnection repository.pool)
    (hok : repository.ensureTable = (.ok (), after)) :
    after.backend.pools = repository.backend.pools := by
  unfold ensureTable at hok
  split at hok
  · cases congrArg Prod.fst hok
  · rename_i created hcreate
    obtain ⟨hsame, hpools⟩ := pools_ask h hcreate
    have hcreated : created.backend.HasConnection created.pool := by
      rw [hsame]
      exact h.of_pools hpools
    exact (pools_ask hcreated hok).2.trans hpools

/-- A statement succeeds on a connected pool if it is answered with rows. -/
theorem ask_of_answers (repository : Repository L) {isUp : L → Prop}
    {statements : List Statement} (hanswers : Answers isUp statements)
    (h : repository.backend.HasConnection repository.pool) (hup : isUp repository.backend.link)
    {statement : Statement} (hmem : statement ∈ statements) (decode : Rows → Except StoreError α) :
    ∃ rows link, repository.ask statement decode =
      (decode rows, { repository with backend := { repository.backend with link := link } }) ∧
      isUp link := by
  obtain ⟨rows, link, hrows, hlink⟩ := hanswers.execute _ repository.table statement hmem hup
  refine ⟨rows, link, ?_, hlink⟩
  simp only [ask, Backend.execute_of_rows h hrows]

theorem ensureTable_of_answers (repository : Repository L) {isUp : L → Prop}
    (hanswers : Answers isUp [.verify, .createTable, .createIndex])
    (h : repository.backend.HasConnection repository.pool) (hup : isUp repository.backend.link) :
    ∃ after, repository.ensureTable = (.ok (), after) := by
  have hcreate : Statement.createTable ∈ [.verify, .createTable, .createIndex] := by simp
  have hindex : Statement.createIndex ∈ [.verify, .createTable, .createIndex] := by simp
  obtain ⟨_, link, hcreated, hlink⟩ :=
    repository.ask_of_answers hanswers h hup hcreate fun _ => .ok ()
  obtain ⟨_, _, hindexed, -⟩ :=
    ask_of_answers { repository with backend := { repository.backend with link := link } }
      hanswers (h.of_pools rfl) hlink hindex fun _ => .ok ()
  rw [ensureTable, hcreated]
  exact ⟨_, hindexed⟩

theorem closings_invariant (closings : List Bool) :
    JobStore.Invariant fun repository : Repository L => repository.backend.closings = closings where
  insert repository _ h := (repository.closings_ask _ _).trans h
  setStatus repository _ _ h := (repository.closings_ask _ _).trans h
  setStatusIf repository _ _ _ h := (repository.closings_ask _ _).trans h
  fetchStatus repository _ h := (repository.closings_ask _ _).trans h
  fetchJob repository _ h := (repository.closings_ask _ _).trans h

end Repository

end JobDesk.Postgres
