import JobDesk.Proofs.Keeper.Assignment
import JobDesk.Proofs.Postgres.Pools

/-!
# Teardown — what becomes of the pools that a keeper opens

A keeper that fails to take over the pool it has opened closes it again, and one that has taken it
over closes it at shutdown, after its coordinator has stopped.  So at any time at most one of the
pools that it has opened is open, and that is the one it holds.
-/

namespace JobDesk

open Postgres (Backend Link Repository Target)

namespace Keeper

variable {L : Type} [Link L] {keeper : Keeper L} {target : Target} {table : String}

/-! ## 1. Opening -/

theorem prepare_closings (keeper : Keeper L) (pool : Nat) (table : String) :
    (keeper.prepare pool table).2.1.backend.closings = keeper.backend.closings := by
  have hensure := (Repository.mk keeper.backend pool table).closings_ensureTable
  unfold prepare
  split
  · split
    · rename_i heq
      rw [heq] at hensure
      exact hensure
    · rename_i heq
      rw [heq] at hensure
      exact hensure
  · rfl

/-- The pool that an attempt to connect has opened is held after it, or closed. -/
theorem connect_closings (keeper : Keeper L) (target : Target) (table : String) :
    let outcome := keeper.connect target table
    ((∃ error, outcome.result = .error error) ∧
      outcome.keeper.backend.closings = keeper.backend.closings ++ [true]) ∨
    ((∃ coordinator, outcome.result = .ok coordinator) ∧
      outcome.keeper.backend.closings = keeper.backend.closings ++ [false] ∧
      outcome.keeper.phase = .ready keeper.backend.pools.length keeper.mounted.length) := by
  unfold connect
  simp only
  rcases keeper.backend.connect_closings target with ⟨opened, heq, hopened⟩ |
    ⟨error, failed, heq, hfailed⟩
  · simp only [heq]
    -- Whatever fails from here on, the pool is closed again.
    have hclose : ∀ backend : Backend L, backend.closings = opened.closings →
        (backend.close keeper.backend.pools.length).closings =
          keeper.backend.closings ++ [true] := by
      intro backend hbackend
      rw [← keeper.backend.length_closings]
      exact Backend.closings_close_last (hbackend.trans hopened)
    have hverify := opened.closings_execute keeper.backend.pools.length table .verify
    generalize opened.execute keeper.backend.pools.length table .verify = verified at hverify ⊢
    obtain ⟨answer, verified⟩ := verified
    cases answer with
    | error error => exact .inl ⟨⟨_, rfl⟩, hclose verified hverify⟩
    | ok rows =>
      have hprepare :=
        prepare_closings { keeper with backend := verified } keeper.backend.pools.length table
      have hsame :=
        prepare_same { keeper with backend := verified } keeper.backend.pools.length table
      simp only
      generalize { keeper with backend := verified }.prepare keeper.backend.pools.length table =
        prepared at hprepare hsame ⊢
      obtain ⟨answer, prepared, ensured⟩ := prepared
      cases answer with
      | error error => exact .inl ⟨⟨_, rfl⟩, hclose prepared.backend (hprepare.trans hverify)⟩
      | ok _ =>
        refine .inr ⟨⟨_, rfl⟩, (hprepare.trans hverify).trans hopened, ?_⟩
        exact congrArg (Phase.ready keeper.backend.pools.length)
          (congrArg List.length hsame.mounted)
  · simp only [heq]
    exact .inl ⟨⟨_, rfl⟩, hfailed⟩

/-- The pools that a call opens: those that a set-up leaves behind the ones from before it. -/
def Call.opens (keeper : Keeper L) (call : Call L) : List Nat :=
  match call with
  | .setUp _ _ =>
    List.range' keeper.backend.pools.length
      ((keeper.step call).2.backend.pools.length - keeper.backend.pools.length)
  | _ => []

theorem closed_of_error {error : PoolError}
    (herror : (keeper.step (.setUp target table)).1 = .taken (.error error)) :
    ∃ more, (keeper.step (.setUp target table)).2.backend.closings =
      keeper.backend.closings ++ more ∧ ∀ isClosed ∈ more, isClosed = true := by
  have hsame : ∃ more, keeper.backend.closings = keeper.backend.closings ++ more ∧
      ∀ isClosed ∈ more, isClosed = true := ⟨[], by simp⟩
  simp only [step, setUp] at herror ⊢
  split
  · rename_i hphase
    simp only [hphase] at herror
    split
    · exact hsame
    · rename_i hrefusal
      simp only [hrefusal] at herror
      rcases keeper.connect_closings target table with ⟨-, hclosings⟩ | ⟨⟨coordinator, hok⟩, -⟩
      · exact ⟨[true], hclosings, by simp⟩
      · rw [hok] at herror
        cases herror
  · exact hsame

theorem ready_of_ok {coordinator : Nat}
    (hok : (keeper.step (.setUp target table)).1 = .taken (.ok coordinator)) :
    (keeper.step (.setUp target table)).2.backend.closings = keeper.backend.closings ++ [false] ∧
      (keeper.step (.setUp target table)).2.phase =
        .ready keeper.backend.pools.length keeper.mounted.length := by
  simp only [step, setUp] at hok ⊢
  split
  · rename_i hphase
    simp only [hphase] at hok
    split
    · rename_i error hrefusal
      simp only [hrefusal] at hok
      cases hok
    · rename_i hrefusal
      simp only [hrefusal] at hok
      rcases keeper.connect_closings target table with ⟨⟨error, herror⟩, -⟩ |
        ⟨-, hclosings, hready⟩
      · rw [herror] at hok
        cases hok
      · exact ⟨hclosings, hready⟩
  · rename_i hphase
    split at hok
    · rename_i hempty
      exact absurd hempty hphase
    · cases hok

/-! ## 2. One call -/

/-- Of the pools opened so far each was opened once, and one that is open is held; the coordinator
of a keeper that holds a pool is built on that pool. -/
structure Accounted (keeper : Keeper L) (opened : List Nat) : Prop where
  there : ∀ pool ∈ opened, pool < keeper.backend.pools.length
  once : opened.Nodup
  held : ∀ pool ∈ opened, keeper.backend.isClosed pool = false →
    ∃ coordinator, keeper.phase = .ready pool coordinator
  built : ∀ pool coordinator, keeper.phase = .ready pool coordinator →
    ∃ mounted, keeper.mounted[coordinator]? = some mounted ∧ mounted.pool = pool

/-- What others do to the database and its pools is no more than time brings. -/
def Call.IsFair : Call L → Prop
  | .elsewhere change => ∀ backend, Backend.Onward backend (change backend)
  | _ => True

variable {known : List Nat}

omit [Link L] in
theorem accounted_fresh (settings : CoordinatorSettings) (createTables : Bool)
    (backend : Backend L) : Accounted (fresh settings createTables backend) [] where
  there _ hmem := absurd hmem List.not_mem_nil
  once := List.nodup_nil
  held _ hmem := absurd hmem List.not_mem_nil
  built _ _ hready := by cases hready

omit [Link L] in
theorem Accounted.closed_of_empty (h : Accounted keeper known) (hempty : keeper.phase = .empty) :
    ∀ pool ∈ known, keeper.backend.isClosed pool = true := by
  intro pool hmem
  refine Bool.eq_false_imp_eq_true.mp fun hopen => ?_
  obtain ⟨coordinator, hheld⟩ := h.held pool hmem hopen
  rw [hempty] at hheld
  cases hheld

omit [Link L] in
/-- The account stays right as long as only the database and its pools change. -/
theorem Accounted.of_same (h : Accounted keeper known) {after : Keeper L}
    (hsame : Same keeper after) (honward : keeper.backend.Onward after.backend) :
    Accounted after known where
  there pool hmem := Nat.lt_of_lt_of_le (h.there pool hmem) honward.length
  once := h.once
  held pool hmem hopen := by
    rw [hsame.phase]
    exact h.held pool hmem (honward.isOpen (h.there pool hmem) hopen)
  built pool coordinator hready := by
    rw [hsame.phase] at hready
    rw [hsame.mounted]
    exact h.built pool coordinator hready

omit [Link L] in
theorem Took.built {before after : Keeper L} {pool : Nat} (h : Took before after pool table)
    (held coordinator : Nat) (hready : after.phase = .ready held coordinator) :
    ∃ mounted, after.mounted[coordinator]? = some mounted ∧ mounted.pool = held := by
  obtain ⟨rfl, rfl⟩ := Phase.ready.inj (h.phase.symm.trans hready)
  have hget : after.mounted[before.mounted.length]? =
      some ⟨{ settings := before.settings }, pool, table⟩ := by
    rw [h.mounted, List.getElem?_append_right (Nat.le_refl _), Nat.sub_self]
    rfl
  exact ⟨_, hget, rfl⟩

omit [Link L] in
/-- Pools that come behind all others join the account; `more` says which of them are closed. -/
theorem Accounted.append (h : Accounted keeper known) {after : Keeper L} {more : List Bool}
    (hclosings : after.backend.closings = keeper.backend.closings ++ more)
    (hold : ∀ pool ∈ known, after.backend.isClosed pool = false →
      ∃ coordinator, after.phase = .ready pool coordinator)
    (hnew : ∀ n, more[n]? = some false →
      ∃ coordinator, after.phase = .ready (keeper.backend.pools.length + n) coordinator)
    (hbuilt : ∀ pool coordinator, after.phase = .ready pool coordinator →
      ∃ mounted, after.mounted[coordinator]? = some mounted ∧ mounted.pool = pool) :
    Accounted after (known ++ List.range' keeper.backend.pools.length more.length) := by
  have hlength := congrArg List.length hclosings
  rw [List.length_append, Backend.length_closings, Backend.length_closings] at hlength
  refine ⟨fun pool hmem => ?_, ?_, fun pool hmem hopen => ?_, hbuilt⟩
  · rcases List.mem_append.mp hmem with hmem | hmem
    · have hbelow := h.there pool hmem
      omega
    · have hbelow := (List.mem_range'_1.mp hmem).2
      omega
  · refine List.nodup_append.mpr ⟨h.once, List.nodup_range', fun pool hpool other hother heq => ?_⟩
    have hbelow := h.there pool hpool
    have habove := (List.mem_range'_1.mp hother).1
    omega
  · rcases List.mem_append.mp hmem with hmem | hmem
    · exact hold pool hmem hopen
    · obtain ⟨hlow, hhigh⟩ := List.mem_range'_1.mp hmem
      obtain ⟨n, rfl⟩ := Nat.exists_eq_add_of_le hlow
      refine hnew n ?_
      rw [Backend.isClosed_append hclosings] at hopen
      cases hget : more[n]? with
      | none => simp [hget] at hopen
      | some isClosed =>
        rw [hget] at hopen
        exact congrArg some hopen

theorem opens_setUp {more : List Bool}
    (h : (keeper.step (.setUp target table)).2.backend.closings = keeper.backend.closings ++ more) :
    Call.opens keeper (.setUp target table) =
      List.range' keeper.backend.pools.length more.length := by
  have hlength := congrArg List.length h
  rw [List.length_append, Backend.length_closings, Backend.length_closings] at hlength
  rw [Call.opens, hlength, Nat.add_sub_cancel_left]

/-- A set-up that fails leaves none of its pools open, and one that succeeds holds its pool. -/
theorem Accounted.setUp (h : Accounted keeper known) (target : Target) (table : String) :
    Accounted (keeper.step (.setUp target table)).2
      (known ++ Call.opens keeper (.setUp target table)) := by
  cases hresult : (keeper.setUp target table).result with
  | error error =>
    have herror : (keeper.step (.setUp target table)).1 = .taken (.error error) :=
      congrArg Reply.taken hresult
    obtain ⟨more, hclosings, hclosed⟩ := closed_of_error herror
    have hsame := h.of_same (same_of_error herror) (Backend.onward_of_closings hclosings)
    rw [opens_setUp hclosings]
    refine h.append hclosings hsame.held (fun n hget => ?_) hsame.built
    cases hclosed false (List.mem_of_getElem? hget)
  | ok coordinator =>
    have hok : (keeper.step (.setUp target table)).1 = .taken (.ok coordinator) :=
      congrArg Reply.taken hresult
    obtain ⟨hclosings, hready⟩ := ready_of_ok hok
    obtain ⟨hempty, -, pool, table', htook⟩ := took_of_ok hok
    rw [opens_setUp hclosings]
    refine h.append hclosings (fun pool hmem hopen => ?_) (fun n hget => ?_) htook.toTook.built
    · have hclosed := (Backend.onward_of_closings hclosings).closed pool (h.there pool hmem)
        (h.closed_of_empty hempty pool hmem)
      rw [hclosed] at hopen
      cases hopen
    · obtain ⟨hn, -⟩ := List.getElem?_eq_some_iff.mp hget
      obtain rfl : n = 0 := Nat.lt_one_iff.mp hn
      exact ⟨_, hready⟩

/-- A keeper that takes over somebody else's pool opens and closes none. -/
theorem backend_install (keeper : Keeper L) (pool : Nat) (table : String) :
    (keeper.step (.install pool table)).2.backend = keeper.backend := by
  simp only [step, install]
  split
  · split <;> rfl
  · rfl

theorem Accounted.install (h : Accounted keeper known) (pool : Nat) (table : String) :
    Accounted (keeper.step (.install pool table)).2 known := by
  have hbackend := keeper.backend_install pool table
  by_cases hempty : keeper.phase = .empty
  · rcases step_empty hempty (.install pool table) with ⟨-, hsame⟩ | ⟨held, name, -, htook⟩
    · refine h.of_same hsame ?_
      rw [hbackend]
      exact .refl keeper.backend
    · refine ⟨fun pool hmem => ?_, h.once, fun pool hmem hopen => ?_, htook.toTook.built⟩
      · rw [hbackend]
        exact h.there pool hmem
      · rw [hbackend, h.closed_of_empty hempty pool hmem] at hopen
        cases hopen
  · rw [(step_double hempty).2]
    exact h

omit [Link L] in
theorem backend_stop (keeper : Keeper L) (coordinator : Nat) :
    (keeper.stop coordinator).1.backend = keeper.backend := by
  unfold stop
  split <;> rfl

theorem step_shutDown {pool coordinator : Nat} (hready : keeper.phase = .ready pool coordinator) :
    keeper.step .shutDown =
      (.done, { ({ keeper with phase := .shutDown }.stop coordinator).1 with
        backend := keeper.backend.close pool }) := by
  simp only [step, shutDown, hready, stop]
  split <;> rfl

theorem Accounted.shutDown (h : Accounted keeper known) :
    Accounted (keeper.step .shutDown).2 known := by
  cases hphase : keeper.phase with
  | empty => rwa [(waits_of_empty (.refl keeper) hphase).shutDown]
  | shutDown => rwa [(step_of_shutDown hphase).2.2]
  | ready pool coordinator =>
    have honward := keeper.backend.onward_close pool
    have hshutDown : (keeper.step .shutDown).2.phase = .shutDown :=
      phase_shutDown (by rw [hphase]; exact nofun)
    rw [step_shutDown hphase] at hshutDown ⊢
    refine ⟨fun other hmem => ?_, h.once, fun other hmem hopen => ?_, fun _ _ hready => ?_⟩
    · exact Nat.lt_of_lt_of_le (h.there other hmem) honward.length
    · obtain ⟨_, hheld⟩ := h.held other hmem (honward.isOpen (h.there other hmem) hopen)
      obtain ⟨rfl, -⟩ := Phase.ready.inj (hphase.symm.trans hheld)
      change (keeper.backend.close pool).isClosed pool = false at hopen
      rw [Backend.isClosed_close] at hopen
      cases hopen
    · rw [hshutDown] at hready
      cases hready

theorem Accounted.step (h : Accounted keeper known) {call : Call L} (hfair : call.IsFair) :
    Accounted (keeper.step call).2 (known ++ call.opens keeper) := by
  cases call with
  | setUp target table => exact h.setUp target table
  | install pool table => exact (List.append_nil known).symm ▸ h.install pool table
  | shutDown => exact (List.append_nil known).symm ▸ h.shutDown
  | pool | coordinator => exact (List.append_nil known).symm ▸ h
  | elsewhere change =>
    exact (List.append_nil known).symm ▸ h.of_same ⟨rfl, rfl, rfl, rfl⟩ (hfair keeper.backend)

/-! ## 3. Runs -/

def opened (keeper : Keeper L) : List (Call L) → List Nat
  | [] => []
  | call :: rest => call.opens keeper ++ opened (keeper.step call).2 rest

/-- The pools that some calls have opened and that are open after them. -/
def leftOpen (keeper : Keeper L) (calls : List (Call L)) : List Nat :=
  (keeper.opened calls).filter fun pool => !(keeper.after calls).backend.isClosed pool

theorem Accounted.after (h : Accounted keeper known) {calls : List (Call L)}
    (hfair : ∀ call ∈ calls, call.IsFair) :
    Accounted (keeper.after calls) (known ++ keeper.opened calls) := by
  induction calls generalizing keeper known with
  | nil =>
    rw [Keeper.opened, List.append_nil]
    exact h
  | cons call rest ih =>
    rw [Keeper.opened, ← List.append_assoc]
    exact ih (h.step (hfair call List.mem_cons_self)) fun other hother =>
      hfair other (List.mem_cons_of_mem call hother)

omit [Link L] in
/-- Of the pools that are accounted for one at most is open, and that is the one held. -/
theorem Accounted.open_eq (h : Accounted keeper known) :
    let left := known.filter fun pool => !keeper.backend.isClosed pool
    left = [] ∨ ∃ pool coordinator, keeper.phase = .ready pool coordinator ∧ left = [pool] := by
  intro left
  have honce : left.Nodup := h.once.filter _
  have hheld : ∀ pool ∈ left, ∃ coordinator, keeper.phase = .ready pool coordinator := by
    intro pool hmem
    obtain ⟨hmem, hopen⟩ := List.mem_filter.mp hmem
    exact h.held pool hmem (by simpa using hopen)
  cases hleft : left with
  | nil => exact .inl rfl
  | cons pool rest =>
    rw [hleft] at honce hheld
    obtain ⟨coordinator, hready⟩ := hheld pool List.mem_cons_self
    refine .inr ⟨pool, coordinator, hready, ?_⟩
    cases rest with
    | nil => rfl
    | cons other rest =>
      obtain ⟨_, hother⟩ := hheld other (by simp)
      obtain ⟨rfl, -⟩ := Phase.ready.inj (hready.symm.trans hother)
      exact absurd List.mem_cons_self (List.nodup_cons.mp honce).1

/-! ## 4. The order of a shutdown -/

/-- What a call does to pools and coordinators, in this order. -/
def Call.acts (keeper : Keeper L) : Call L → List Act
  | .setUp target table => (keeper.setUp target table).acts
  | .install number table => (keeper.install number table).acts
  | .shutDown => keeper.shutDown.acts
  | _ => []

/-- What some calls do to pools and coordinators, one after the other. -/
def acts (keeper : Keeper L) : List (Call L) → List Act
  | [] => []
  | call :: rest => call.acts keeper ++ acts (keeper.step call).2 rest

def Act.perform (keeper : Keeper L) : Act → Keeper L
  | .opened _ => keeper
  | .closed pool => { keeper with backend := keeper.backend.close pool }
  | .stopped coordinator => (keeper.stop coordinator).1

theorem acts_of_shutDown (hshutDown : keeper.phase = .shutDown) (calls : List (Call L)) :
    keeper.acts calls = [] := by
  induction calls generalizing keeper with
  | nil => rfl
  | cons call rest ih =>
    have hnone : call.acts keeper = [] := by
      cases call with
      | setUp | install | shutDown => simp only [Call.acts, setUp, install, shutDown, hshutDown]
      | pool | coordinator | elsewhere => rfl
    have hnext : (keeper.step call).2.phase = .shutDown :=
      (shutDown_after hshutDown [call]).phase.trans hshutDown
    rw [acts, hnone, ih hnext, List.append_nil]

/-- From the call on that takes a pool over, nothing is done to it and its coordinator but that the
coordinator is stopped and, after that, the pool is closed. -/
theorem acts_of_ready {pool coordinator : Nat} (hready : keeper.phase = .ready pool coordinator)
    (calls : List (Call L)) :
    keeper.acts calls = [] ∨ keeper.acts calls = [.stopped coordinator, .closed pool] := by
  induction calls generalizing keeper with
  | nil => exact .inl rfl
  | cons call rest ih =>
    have htaken : keeper.phase ≠ .empty := by
      rw [hready]
      exact nofun
    rw [acts]
    by_cases hshutDown : call = .shutDown
    · subst hshutDown
      refine .inr ?_
      rw [acts_of_shutDown (phase_shutDown htaken), List.append_nil]
      simp only [Call.acts, shutDown, hready]
    · have hnone : call.acts keeper = [] := by
        cases call with
        | shutDown => exact absurd rfl hshutDown
        | setUp | install => simp only [Call.acts, setUp, install, hready]
        | pool | coordinator | elsewhere => rfl
      have hsame := (step_taken htaken call).2.resolve_left hshutDown
      rw [hnone, List.nil_append]
      exact ih (hsame.phase.trans hready)

/-- A shutdown stops the coordinator while the pool is as it was, and closes the pool after it. -/
theorem shutDown_in_order (h : Accounted keeper known) {pool coordinator : Nat}
    (hready : keeper.phase = .ready pool coordinator) :
    let stopped := Act.perform { keeper with phase := .shutDown } (.stopped coordinator)
    stopped.IsStopped coordinator ∧ stopped.backend = keeper.backend ∧
      (keeper.step .shutDown).2 = Act.perform stopped (.closed pool) := by
  intro stopped
  obtain ⟨mounted, hget, -⟩ := h.built pool coordinator hready
  have hbackend : stopped.backend = keeper.backend :=
    backend_stop { keeper with phase := .shutDown } coordinator
  have hstep : (keeper.step .shutDown).2 = Act.perform stopped (.closed pool) := by
    rw [step_shutDown hready]
    simp only [stopped, Act.perform, backend_stop]
  refine ⟨?_, hbackend, hstep⟩
  -- Closing the pool is nothing to the coordinators.
  have hstopped := stopped_of_ready hready (List.getElem?_eq_some_iff.mp hget).1
  rwa [hstep] at hstopped

end Keeper

end JobDesk
