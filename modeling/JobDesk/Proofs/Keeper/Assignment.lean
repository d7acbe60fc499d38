import JobDesk.Keeper.Basic
import JobDesk.Proofs.Postgres.Pools

/-!
# Assignment — a keeper takes one pool over

Any sequence of calls leads a keeper from empty over one successful call to shutdown, and each of
the three phases is left only in this way, whatever the database answers and whatever others do to
it in between.  A call that succeeds takes over the pool it was given or the one it has opened, and
one that fails stands in nobody's way.
-/

namespace JobDesk.Keeper

open Postgres (Answers Backend Link Repository Statement Target)

/-! ## 1. Calls -/

inductive Call (L : Type) where
  | setUp (target : Target) (table : String)
  | install (pool : Nat) (table : String)
  | shutDown
  | pool
  | coordinator
  /-- What others do to the database and its pools. -/
  | elsewhere (change : Backend L → Backend L)

inductive Reply where
  | taken (result : Except PoolError Nat)
  | held (number : Option Nat)
  | done

def Reply.isTaken : Reply → Bool
  | taken (.ok _) => true
  | _ => false

/-- All of a keeper is as it was but the database and its pools. -/
structure Same {L : Type} (before after : Keeper L) : Prop where
  settings : after.settings = before.settings
  createTables : after.createTables = before.createTables
  phase : after.phase = before.phase
  mounted : after.mounted = before.mounted

theorem Same.refl {L : Type} (keeper : Keeper L) : Same keeper keeper := ⟨rfl, rfl, rfl, rfl⟩

theorem Same.trans {L : Type} {first second third : Keeper L} (hfirst : Same first second)
    (hsecond : Same second third) : Same first third :=
  ⟨hsecond.settings.trans hfirst.settings, hsecond.createTables.trans hfirst.createTables,
    hsecond.phase.trans hfirst.phase, hsecond.mounted.trans hfirst.mounted⟩

variable {L : Type} [Link L]

def step (keeper : Keeper L) : Call L → Reply × Keeper L
  | .setUp target table =>
    let outcome := keeper.setUp target table
    (.taken outcome.result, outcome.keeper)
  | .install pool table =>
    let outcome := keeper.install pool table
    (.taken outcome.result, outcome.keeper)
  | .shutDown => (.done, keeper.shutDown.keeper)
  | .pool => (.held keeper.pool?, keeper)
  | .coordinator => (.held keeper.coordinator?, keeper)
  | .elsewhere change => (.done, { keeper with backend := change keeper.backend })

/-- The pool that a call takes over, or would: its own, or the one it opens. -/
def Call.takes? (keeper : Keeper L) : Call L → Option Nat
  | .setUp target table =>
    match (keeper.setUp target table).acts with
    | [.opened number] => some number
    | _ => none
  | .install number _ => some number
  | _ => none

def Call.table? : Call L → Option String
  | .setUp _ table | .install _ table => some table
  | _ => none

def after (keeper : Keeper L) (calls : List (Call L)) : Keeper L :=
  calls.foldl (fun keeper call => (keeper.step call).2) keeper

def replies (keeper : Keeper L) : List (Call L) → List Reply
  | [] => []
  | call :: rest => (keeper.step call).1 :: replies (keeper.step call).2 rest

def fresh (settings : CoordinatorSettings) (createTables : Bool) (backend : Backend L) :
    Keeper L :=
  { settings := settings, createTables := createTables, backend := backend }

/-! ## 2. Taking over -/

variable {keeper : Keeper L} {target : Target} {table : String} {pool coordinator : Nat}

structure Took (before after : Keeper L) (pool : Nat) (table : String) : Prop where
  phase : after.phase = .ready pool before.mounted.length
  mounted : after.mounted = before.mounted ++ [⟨{ settings := before.settings }, pool, table⟩]

theorem prepare_same (keeper : Keeper L) (pool : Nat) (table : String) :
    Same keeper (keeper.prepare pool table).2.1 := by
  unfold prepare
  split
  · split <;> exact ⟨rfl, rfl, rfl, rfl⟩
  · exact .refl keeper

/-- A table that is made sure of is asked for on the one pool, and changes none. -/
theorem pools_prepare {after : Keeper L} {notices : List Notice}
    (h : keeper.backend.HasConnection pool)
    (hok : keeper.prepare pool table = (.ok (), after, notices)) :
    after.backend.pools = keeper.backend.pools := by
  unfold prepare at hok
  split at hok
  · split at hok
    · rename_i hensure
      obtain rfl := congrArg (·.2.1) hok
      exact Repository.pools_ensureTable h hensure
    · cases congrArg Prod.fst hok
  · obtain rfl := congrArg (·.2.1) hok
    rfl

/-- An attempt to connect takes the pool over that it has opened, or leaves all but the database as
it was. -/
theorem connect_spec (keeper : Keeper L) (target : Target) (table : String) :
    let outcome := keeper.connect target table
    (∃ error, outcome.result = .error (.initialization error) ∧ Same keeper outcome.keeper) ∨
    (outcome.result = .ok keeper.mounted.length ∧
      outcome.acts = [.opened keeper.backend.pools.length] ∧
      Took keeper outcome.keeper keeper.backend.pools.length table ∧
      outcome.keeper.backend.pools = keeper.backend.pools ++ [⟨target, true, false⟩]) := by
  unfold connect
  simp only
  split
  · exact .inl ⟨_, rfl, rfl, rfl, rfl, rfl⟩
  · rename_i pool opened hconnect
    obtain ⟨rfl, hopened⟩ := Backend.pools_connect hconnect
    have hconnected := Backend.hasConnection_append hopened
    split
    · exact .inl ⟨_, rfl, rfl, rfl, rfl, rfl⟩
    · rename_i rows verified hverify
      have hverified := Backend.pools_execute hconnected hverify
      have hsame :=
        prepare_same { keeper with backend := verified } keeper.backend.pools.length table
      split
      · rename_i heq
        rw [heq] at hsame
        exact .inl ⟨_, rfl, hsame.settings, hsame.createTables, hsame.phase, hsame.mounted⟩
      · rename_i prepared _ heq
        rw [heq] at hsame
        have hmounted : prepared.mounted = keeper.mounted := hsame.mounted
        have hsettings : prepared.settings = keeper.settings := hsame.settings
        have hpools := pools_prepare (hconnected.of_pools hverified) heq
        refine .inr ⟨?_, rfl, ⟨?_, ?_⟩, ?_⟩
        · simp only [attach, hmounted]
        · simp only [attach, hmounted]
        · simp only [attach, hmounted, hsettings]
        · exact hpools.trans (hverified.trans hopened)

def firstStatements (createTables : Bool) : List Statement :=
  if createTables then [.verify, .createTable, .createIndex] else [.verify]

theorem verify_mem_firstStatements (createTables : Bool) :
    Statement.verify ∈ firstStatements createTables := by
  cases createTables <;> exact List.mem_cons_self

theorem prepare_of_answers (keeper : Keeper L) (table : String) {isUp : L → Prop}
    (hanswers : Answers isUp (firstStatements keeper.createTables))
    (h : keeper.backend.HasConnection pool) (hup : isUp keeper.backend.link) :
    ∃ after notices, keeper.prepare pool table = (.ok (), after, notices) := by
  unfold prepare
  split
  · rename_i hcreate
    rw [hcreate] at hanswers
    obtain ⟨after, hensure⟩ :=
      Repository.ensureTable_of_answers ⟨keeper.backend, pool, table⟩ hanswers h hup
    rw [hensure]
    exact ⟨_, _, rfl⟩
  · exact ⟨_, _, rfl⟩

/-- An attempt to connect succeeds where the database is reached and answers. -/
theorem connect_of_answers {isUp : L → Prop}
    (hanswers : Answers isUp (firstStatements keeper.createTables))
    (hup : isUp keeper.backend.link) (target : Target) (table : String) :
    ∃ coordinator, (keeper.connect target table).result = .ok coordinator := by
  obtain ⟨link, hreached, hlink⟩ := hanswers.connect keeper.backend.link target hup
  let opened : Backend L := ⟨link, keeper.backend.pools ++ [⟨target, true, false⟩]⟩
  have hconnect : keeper.backend.connect target = (.ok keeper.backend.pools.length, opened) :=
    Backend.connect_of_connected hreached
  have hconnected : opened.HasConnection keeper.backend.pools.length :=
    Backend.hasConnection_append rfl
  obtain ⟨rows, after, hrows, hafter⟩ := hanswers.execute link table .verify
    (verify_mem_firstStatements _) hlink
  have hverify := Backend.execute_of_rows hconnected hrows
  obtain ⟨prepared, notices, hprepare⟩ :=
    prepare_of_answers { keeper with backend := { opened with link := after } } table hanswers
      (hconnected.of_pools rfl) hafter
  simp only [connect, hconnect, hverify, hprepare]
  exact ⟨_, rfl⟩

/-! ## 3. One call -/

/-- What becomes of a keeper by a call that has taken a pool over, on the table that it names: a
set-up has opened that pool, behind all others. -/
structure TookBy (before after : Keeper L) (call : Call L) (pool : Nat) (table : String) : Prop
    extends Took before after pool table where
  takes : call.takes? before = some pool
  names : call.table? = some table
  opened : ∀ target name, call = .setUp target name →
    pool = before.backend.pools.length ∧
      after.backend.pools = before.backend.pools ++ [⟨target, true, false⟩]

/-- A call to an empty keeper takes a pool over, or leaves all but the database as it was. -/
theorem step_empty (hempty : keeper.phase = .empty) (call : Call L) :
    ((keeper.step call).1.isTaken = false ∧ Same keeper (keeper.step call).2) ∨
    ∃ pool table, (keeper.step call).1 = .taken (.ok keeper.mounted.length) ∧
      TookBy keeper (keeper.step call).2 call pool table := by
  cases call with
  | setUp target table =>
    have hsetUp : refusal? (some target) table = none →
        keeper.setUp target table = keeper.connect target table := by
      intro hrefusal
      simp only [setUp, hempty, hrefusal]
    cases hrefusal : refusal? (some target) table with
    | some error =>
      simp only [step, setUp, hempty, hrefusal]
      exact .inl ⟨rfl, .refl keeper⟩
    | none =>
      simp only [step, hsetUp hrefusal]
      rcases connect_spec keeper target table with ⟨error, hresult, hsame⟩ |
        ⟨hresult, hacts, htook, hopened⟩
      · exact .inl ⟨by rw [hresult]; rfl, hsame⟩
      · refine .inr ⟨_, table, by rw [hresult], htook, ?_, rfl, fun other name heq => ?_⟩
        · simp only [Call.takes?, hsetUp hrefusal, hacts]
        · cases heq
          exact ⟨rfl, hopened⟩
  | install pool table =>
    simp only [step, install, hempty]
    split
    · exact .inl ⟨rfl, .refl keeper⟩
    · exact .inr ⟨pool, table, rfl, ⟨rfl, rfl⟩, rfl, rfl, nofun⟩
  | shutDown =>
    simp only [step, shutDown, hempty]
    exact .inl ⟨rfl, .refl keeper⟩
  | pool | coordinator | elsewhere => exact .inl ⟨rfl, rfl, rfl, rfl, rfl⟩

/-- What a keeper that is not empty says to those who bring it a pool; it does nothing for them. -/
theorem step_double (htaken : keeper.phase ≠ .empty) :
    (∀ target table, keeper.step (.setUp target table) =
      (.taken (.error .doubleInitialization), keeper)) ∧
    ∀ pool table, keeper.step (.install pool table) =
      (.taken (.error .doubleInitialization), keeper) := by
  cases hphase : keeper.phase with
  | empty => exact absurd hphase htaken
  | ready pool coordinator | shutDown =>
    simp only [step, setUp, install, hphase, implies_true, and_self]

/-- A keeper that is not empty takes nothing over, and only shutdown moves it. -/
theorem step_taken (htaken : keeper.phase ≠ .empty) (call : Call L) :
    (keeper.step call).1.isTaken = false ∧
      (call = .shutDown ∨ Same keeper (keeper.step call).2) := by
  obtain ⟨hsetUp, hinstall⟩ := step_double htaken
  cases call with
  | setUp target table =>
    rw [hsetUp]
    exact ⟨rfl, .inr (.refl keeper)⟩
  | install pool table =>
    rw [hinstall]
    exact ⟨rfl, .inr (.refl keeper)⟩
  | shutDown => exact ⟨rfl, .inl rfl⟩
  | pool | coordinator | elsewhere => exact ⟨rfl, .inr ⟨rfl, rfl, rfl, rfl⟩⟩

theorem phase_shutDown (htaken : keeper.phase ≠ .empty) :
    (keeper.step .shutDown).2.phase = .shutDown := by
  cases hphase : keeper.phase with
  | empty => exact absurd hphase htaken
  | ready pool coordinator =>
    simp only [step, shutDown, hphase, stop]
    split <;> rfl
  | shutDown => simp only [step, shutDown, hphase]

def IsStopped (keeper : Keeper L) (coordinator : Nat) : Prop :=
  ∃ mounted, keeper.mounted[coordinator]? = some mounted ∧ mounted.coordinator.isShutDown = true

theorem stopped_of_ready (hready : keeper.phase = .ready pool coordinator)
    (hmounted : coordinator < keeper.mounted.length) :
    (keeper.step .shutDown).2.IsStopped coordinator := by
  have hget := List.getElem?_eq_getElem hmounted
  have hstop : ∀ c : Coordinator, c.shutDown.1.isShutDown = true := by
    intro c
    unfold Coordinator.shutDown
    split
    · assumption
    · rfl
  simp only [step, shutDown, hready, stop, hget, IsStopped]
  exact ⟨_, List.getElem?_set_self hmounted, hstop keeper.mounted[coordinator].coordinator⟩

/-! ## 4. Runs -/

theorem after_append (keeper : Keeper L) (first second : List (Call L)) :
    keeper.after (first ++ second) = (keeper.after first).after second :=
  List.foldl_append

def takings (keeper : Keeper L) (calls : List (Call L)) : Nat :=
  (keeper.replies calls).countP Reply.isTaken

theorem takings_cons (keeper : Keeper L) (call : Call L) (rest : List (Call L)) :
    keeper.takings (call :: rest) =
      (if (keeper.step call).1.isTaken then 1 else 0) + (keeper.step call).2.takings rest := by
  rw [takings, replies, List.countP_cons, takings, Nat.add_comm]

theorem step_ne_empty (htaken : keeper.phase ≠ .empty) (call : Call L) :
    (keeper.step call).2.phase ≠ .empty := by
  rcases (step_taken htaken call).2 with rfl | hsame
  · rw [phase_shutDown htaken]
    decide
  · rwa [hsame.phase]

theorem takings_of_taken (htaken : keeper.phase ≠ .empty) (calls : List (Call L)) :
    keeper.takings calls = 0 ∧ (keeper.after calls).phase ≠ .empty := by
  induction calls generalizing keeper with
  | nil => exact ⟨rfl, htaken⟩
  | cons call rest ih =>
    obtain ⟨hnone, hphase⟩ := ih (step_ne_empty htaken call)
    refine ⟨?_, hphase⟩
    rw [takings_cons, (step_taken htaken call).1, hnone]
    rfl

theorem takings_of_empty (hempty : keeper.phase = .empty) (calls : List (Call L)) :
    (keeper.takings calls = 0 ∧ Same keeper (keeper.after calls)) ∨
      (keeper.takings calls = 1 ∧ (keeper.after calls).phase ≠ .empty) := by
  induction calls generalizing keeper with
  | nil => exact .inl ⟨rfl, .refl keeper⟩
  | cons call rest ih =>
    rw [takings_cons]
    rcases step_empty hempty call with ⟨htaken, hsame⟩ | ⟨pool, table, hreply, htook⟩
    · rw [htaken, if_neg (by decide), Nat.zero_add]
      rcases ih (hsame.phase.trans hempty) with ⟨hnone, hrest⟩ | hone
      · exact .inl ⟨hnone, hsame.trans hrest⟩
      · exact .inr hone
    · have hnext : (keeper.step call).2.phase ≠ .empty := by
        rw [htook.phase]
        exact nofun
      obtain ⟨hnone, hphase⟩ := takings_of_taken hnext rest
      rw [hreply, hnone]
      exact .inr ⟨rfl, hphase⟩

theorem ready_after (hready : keeper.phase = .ready pool coordinator) {calls : List (Call L)}
    (hcalls : .shutDown ∉ calls) : Same keeper (keeper.after calls) := by
  induction calls generalizing keeper with
  | nil => exact .refl keeper
  | cons call rest ih =>
    rw [List.mem_cons, not_or] at hcalls
    have htaken : keeper.phase ≠ .empty := by
      rw [hready]
      exact nofun
    rcases (step_taken htaken call).2 with rfl | hsame
    · exact absurd rfl hcalls.1
    · exact hsame.trans (ih (hsame.phase.trans hready) hcalls.2)

theorem shutDown_after (hshutDown : keeper.phase = .shutDown) (calls : List (Call L)) :
    Same keeper (keeper.after calls) := by
  induction calls generalizing keeper with
  | nil => exact .refl keeper
  | cons call rest ih =>
    have hsame : Same keeper (keeper.step call).2 := by
      rcases (step_taken (by rw [hshutDown]; decide) call).2 with rfl | hsame
      · simp only [step, shutDown, hshutDown]
        exact .refl keeper
      · exact hsame
    exact hsame.trans (ih (hsame.phase.trans hshutDown))

/-- A target with an empty text or a number out of its bounds, or a table whose name is no
identifier. -/
def IsInvalid (target : Target) (table : String) : Prop :=
  target.host = "" ∨ target.port = 0 ∨ target.database = "" ∨ target.user = "" ∨
    target.maxConnections = 0 ∨ 64 < target.maxConnections ∨ Postgres.isIdentifier table = false

theorem faults_eq_nil_iff (target : Target) :
    target.faults = [] ↔ target.host ≠ "" ∧ target.port ≠ 0 ∧ target.database ≠ "" ∧
      target.user ≠ "" ∧ target.maxConnections ≠ 0 ∧ ¬ 64 < target.maxConnections := by
  have hport : target.port.toNat = 0 ↔ target.port = 0 := UInt16.toNat_inj (b := 0)
  have hconnections : target.maxConnections.toNat = 0 ↔ target.maxConnections = 0 :=
    UInt32.toNat_inj (b := 0)
  have hlimit : 64 < target.maxConnections.toNat ↔ 64 < target.maxConnections := Iff.rfl
  simp [Target.faults, Target.textFault, Target.numberFault, Target.connectionLimit, hport,
    hconnections, hlimit]

theorem refusal?_of_invalid (h : IsInvalid target table) :
    ∃ reason, refusal? (some target) table = some (.invalidConfig reason) := by
  cases hfaults : target.faults with
  | cons fault rest => exact ⟨_, by simp [refusal?, hfaults]; rfl⟩
  | nil =>
    obtain ⟨hhost, hport, hdatabase, huser, hsome, hlimit⟩ := (faults_eq_nil_iff target).mp hfaults
    have hname : Postgres.isIdentifier table = false := by
      simpa [IsInvalid, hhost, hport, hdatabase, huser, hsome, hlimit] using h
    exact ⟨_, by simp [refusal?, hfaults, hname]; rfl⟩

theorem refusal?_of_valid (h : ¬ IsInvalid target table) :
    refusal? (some target) table = none := by
  simp only [IsInvalid, not_or, Bool.not_eq_false] at h
  obtain ⟨hhost, hport, hdatabase, huser, hsome, hlimit, hname⟩ := h
  have hfaults : target.faults = [] :=
    (faults_eq_nil_iff target).mpr ⟨hhost, hport, hdatabase, huser, hsome, hlimit⟩
  simp [refusal?, hfaults, hname]

/-! ## 5. Single assignment -/

theorem step_of_shutDown (hshutDown : keeper.phase = .shutDown) :
    keeper.step .pool = (.held none, keeper) ∧
      keeper.step .coordinator = (.held none, keeper) ∧
      keeper.step .shutDown = (.done, keeper) := by
  simp only [step, pool?, coordinator?, shutDown, hshutDown, and_self]

theorem same_of_error {call : Call L} {error : PoolError}
    (herror : (keeper.step call).1 = .taken (.error error)) : Same keeper (keeper.step call).2 := by
  by_cases hempty : keeper.phase = .empty
  · rcases step_empty hempty call with ⟨-, hsame⟩ | ⟨pool, table, hreply, -⟩
    · exact hsame
    · exact absurd (hreply.symm.trans herror) (by simp)
  · rcases (step_taken hempty call).2 with rfl | hsame
    · cases herror
    · exact hsame

/-- A keeper that has taken no pool over is as it was at first and stands in nobody's way: a pool
with a proper name is taken over, and so is a new one where the database is reached and answers; an
invalid target is refused without turning to the database. -/
structure Waits (start keeper : Keeper L) : Prop where
  same : Same start keeper
  shutDown : keeper.step .shutDown = (.done, keeper)
  install : ∀ pool table, Postgres.isIdentifier table = true → ∃ coordinator,
    (keeper.step (.install pool table)).1 = .taken (.ok coordinator)
  invalid : ∀ target table, IsInvalid target table → ∃ reason,
    keeper.step (.setUp target table) = (.taken (.error (.invalidConfig reason)), keeper)
  setUp : ∀ target table isUp, ¬ IsInvalid target table →
    Answers isUp (firstStatements keeper.createTables) → isUp keeper.backend.link →
    ∃ coordinator, (keeper.step (.setUp target table)).1 = .taken (.ok coordinator)

theorem waits_of_empty {start : Keeper L} (hsame : Same start keeper)
    (hempty : keeper.phase = .empty) : Waits start keeper where
  same := hsame
  shutDown := by simp only [step, Keeper.shutDown, hempty]
  install pool table htable :=
    ⟨keeper.mounted.length, by simp [step, Keeper.install, hempty, refusal?, htable, attach]⟩
  invalid target table hinvalid := by
    obtain ⟨reason, hreason⟩ := refusal?_of_invalid hinvalid
    refine ⟨reason, ?_⟩
    simp only [step, Keeper.setUp, hempty, hreason]
  setUp target table isUp hvalid hanswers hup := by
    obtain ⟨coordinator, hok⟩ := connect_of_answers hanswers hup target table
    refine ⟨coordinator, ?_⟩
    simp only [step, Keeper.setUp, hempty, refusal?_of_valid hvalid, hok]

/-- A call that succeeds finds an empty keeper, and leaves one that has taken its pool over. -/
theorem took_of_ok {call : Call L} (hok : (keeper.step call).1 = .taken (.ok coordinator)) :
    keeper.phase = .empty ∧ coordinator = keeper.mounted.length ∧
      ∃ pool table, TookBy keeper (keeper.step call).2 call pool table := by
  by_cases hempty : keeper.phase = .empty
  · rcases step_empty hempty call with ⟨hfalse, -⟩ | ⟨pool, table, hreply, htook⟩
    · rw [hok] at hfalse
      cases hfalse
    · refine ⟨hempty, ?_, pool, table, htook⟩
      simpa using hok.symm.trans hreply
  · have hfalse := (step_taken hempty call).1
    rw [hok] at hfalse
    cases hfalse

theorem held_after (hready : keeper.phase = .ready pool coordinator) {held : List (Call L)}
    (hheld : .shutDown ∉ held) :
    (keeper.after held).step .pool = (.held (some pool), keeper.after held) ∧
      (keeper.after held).step .coordinator = (.held (some coordinator), keeper.after held) := by
  have hphase := (ready_after hready hheld).phase.trans hready
  simp only [step, pool?, coordinator?, hphase, and_self]

/-- From the first shutdown on a keeper gives nothing away, and its coordinator is shut down. -/
theorem stopped_after (hready : keeper.phase = .ready pool coordinator)
    (hmounted : coordinator < keeper.mounted.length) (held later : List (Call L)) :
    let last := keeper.after (held ++ .shutDown :: later)
    last.step .pool = (.held none, last) ∧ last.step .coordinator = (.held none, last) ∧
      last.step .shutDown = (.done, last) ∧ last.IsStopped coordinator := by
  -- The calls in `held` can hold a shutdown too: only the first one counts.
  obtain ⟨early, rest, heq, hearly⟩ := List.eq_append_cons_of_mem
    (List.mem_append_right held (@List.mem_cons_self _ (Call.shutDown : Call L) later))
  rw [heq, after_append]
  have hsame := ready_after hready hearly
  generalize keeper.after early = holding at hsame
  have hholding := hsame.phase.trans hready
  have hlength : coordinator < holding.mounted.length := by
    rw [hsame.mounted]
    exact hmounted
  have hphase : (holding.step .shutDown).2.phase = .shutDown :=
    phase_shutDown (by rw [hholding]; exact nofun)
  have hrest := shutDown_after hphase rest
  obtain ⟨hpool, hcoordinator, hagain⟩ := step_of_shutDown (hrest.phase.trans hphase)
  obtain ⟨mounted, hget, hstopped⟩ := stopped_of_ready hholding hlength
  exact ⟨hpool, hcoordinator, hagain, mounted, hrest.mounted ▸ hget, hstopped⟩

/-- What follows on a call that has taken a pool over: until the next shutdown the keeper gives the
pool and its coordinator away, and from then on nothing; it never takes over another one. -/
structure TakesOver (start : Keeper L) (calls : List (Call L)) (call : Call L)
    (coordinator pool : Nat) : Prop where
  took : ∃ table, TookBy (start.after calls) (start.after (calls ++ [call])) call pool table ∧
    (start.after (calls ++ [call])).mounted[coordinator]? =
      some ⟨{ settings := start.settings }, pool, table⟩
  double : ∀ later, let keeper := start.after (calls ++ call :: later)
    (∀ target table, keeper.step (.setUp target table) =
      (.taken (.error .doubleInitialization), keeper)) ∧
    ∀ pool table, keeper.step (.install pool table) =
      (.taken (.error .doubleInitialization), keeper)
  held : ∀ held, .shutDown ∉ held → let keeper := start.after (calls ++ call :: held)
    keeper.step .pool = (.held (some pool), keeper) ∧
    keeper.step .coordinator = (.held (some coordinator), keeper)
  stopped : ∀ held later, let keeper := start.after (calls ++ call :: (held ++ .shutDown :: later))
    keeper.step .pool = (.held none, keeper) ∧
    keeper.step .coordinator = (.held none, keeper) ∧
    keeper.step .shutDown = (.done, keeper) ∧
    keeper.IsStopped coordinator

theorem takesOver_of_ok {start : Keeper L} {calls : List (Call L)} {call : Call L}
    (hsame : Same start (start.after calls))
    (hok : ((start.after calls).step call).1 = .taken (.ok coordinator)) :
    ∃ pool, TakesOver start calls call coordinator pool := by
  obtain ⟨-, rfl, pool, table, htook⟩ := took_of_ok hok
  have hsplit : ∀ later, start.after (calls ++ call :: later) =
      ((start.after calls).step call).2.after later := fun later => after_append _ _ _
  have hready := htook.phase
  have htaken : ((start.after calls).step call).2.phase ≠ .empty := by
    rw [hready]
    exact nofun
  have hlength :
      (start.after calls).mounted.length < ((start.after calls).step call).2.mounted.length := by
    rw [htook.mounted, List.length_append]
    exact Nat.lt_succ_self _
  refine ⟨pool, ⟨table, ?_, ?_⟩, fun later => ?_, fun held hheld => ?_, fun held later => ?_⟩
  · rw [hsplit]
    exact htook
  · rw [hsplit]
    change ((start.after calls).step call).2.mounted[_]? = _
    rw [htook.mounted, List.getElem?_append_right (Nat.le_refl _), Nat.sub_self, hsame.settings]
    rfl
  · rw [hsplit]
    exact step_double (takings_of_taken htaken later).2
  · rw [hsplit]
    exact held_after hready hheld
  · rw [hsplit]
    exact stopped_after hready hlength _ _

/-- A keeper takes over one pool at most, gives it away until it is shut down, and nothing from then
on; whatever fails changes nothing. -/
theorem single_assignment (settings : CoordinatorSettings) (createTables : Bool)
    (backend : Backend L) :
    let start := fresh settings createTables backend
    -- At most one call succeeds, and calls that fail leave the keeper as it was.
    (∀ calls, start.takings calls ≤ 1) ∧
    (∀ calls call error, ((start.after calls).step call).1 = .taken (.error error) →
      Same (start.after calls) ((start.after calls).step call).2) ∧
    -- Before a call has succeeded, and from one that succeeds.
    (∀ calls, start.takings calls = 0 → Waits start (start.after calls)) ∧
    ∀ calls call coordinator,
      ((start.after calls).step call).1 = .taken (.ok coordinator) →
      ∃ pool, TakesOver start calls call coordinator pool := by
  intro start
  have hstart : start.phase = .empty := rfl
  refine ⟨fun calls => ?_, fun calls call error herror => same_of_error herror,
    fun calls hnone => ?_, fun calls call coordinator hok => ?_⟩
  · rcases takings_of_empty hstart calls with ⟨hnone, -⟩ | ⟨hone, -⟩ <;> omega
  · rcases takings_of_empty hstart calls with ⟨-, hsame⟩ | ⟨hone, -⟩
    · exact waits_of_empty hsame (hsame.phase.trans hstart)
    · omega
  · rcases takings_of_empty hstart calls with ⟨-, hsame⟩ | ⟨-, htaken⟩
    · exact takesOver_of_ok hsame hok
    · exact absurd (took_of_ok hok).1 htaken

/-- A database that answers statements by a script, and with no rows when that has come to its end.
-/
structure Scripted where
  replies : List Postgres.Reply

def noRows : Postgres.Reply := .rows ⟨[], [], "OK 0"⟩

instance : Link Scripted where
  connect link _ := (.connected, link)
  execute link _ _ :=
    match link.replies with
    | [] => (noRows, link)
    | reply :: rest => (reply, ⟨rest⟩)

def localTarget : Target := ⟨"localhost", 5432, "search", "search", "", 2, ⟨0⟩, ⟨0⟩⟩

/-- A database that refuses the first statement lets a set-up fail; the next one takes over the pool
that it has opened, the second one, and after a shutdown nothing is taken over any more. -/
theorem set_up_after_failure :
    let start : Keeper Scripted := fresh {} true (Backend.mk ⟨[.refused "starting up"]⟩ [])
    let failing : Call Scripted := .setUp localTarget "jobs"
    let keeper := start.after [failing, failing, .shutDown, .install 4 "jobs"]
    (start.step failing).1 = .taken (.error (.initialization (.database "starting up"))) ∧
      (start.after [failing, failing]).step .pool =
        (.held (some 1), start.after [failing, failing]) ∧
      (start.after [failing, failing]).backend.isClosed 1 = false ∧
      keeper.step .pool = (.held none, keeper) ∧ keeper.IsStopped 0 := by
  intro start failing keeper
  obtain ⟨-, -, hwaits, htakes⟩ :=
    single_assignment {} true (Backend.mk (Scripted.mk [.refused "starting up"]) [])
  have hanswers : Answers (fun link : Scripted => link.replies = []) (firstStatements true) :=
    ⟨fun link _ hup => ⟨link, rfl, hup⟩, fun ⟨replies⟩ _ _ _ hup => ⟨_, ⟨replies⟩, by
      obtain rfl : replies = [] := hup
      exact ⟨rfl, rfl⟩⟩⟩
  have hvalid : ¬ IsInvalid localTarget "jobs" := by
    unfold IsInvalid
    decide +kernel
  obtain ⟨coordinator, hok⟩ :=
    (hwaits [failing] (by decide +kernel)).setUp localTarget "jobs" _ hvalid hanswers rfl
  obtain rfl : coordinator = 0 := (took_of_ok hok).2.1.trans (by decide +kernel)
  obtain ⟨pool, htaken⟩ := htakes [failing] failing 0 hok
  obtain ⟨table, htook, -⟩ := htaken.took
  obtain rfl : pool = 1 := (htook.opened localTarget "jobs" rfl).1.trans (by decide +kernel)
  have hstopped := htaken.stopped [] [.install 4 "jobs"]
  exact ⟨rfl, (htaken.held [] List.not_mem_nil).1, by decide +kernel, hstopped.1, hstopped.2.2.2⟩

end JobDesk.Keeper
