import JobDesk.Proofs.Keeper.Teardown
import JobDesk.Service

/-!
# Ending — no pool is left open

The requests that a service answers leave its keeper as it was but for the database, so that the
shutdown at its end finds the pool that was opened at its beginning.
-/

namespace JobDesk

open Postgres (Backend Link Repository Target)

namespace Service

variable {L : Type} [Link L]

/-! ## 1. Requests -/

/-- A keeper of which the coordinators, the phase and the pools that are open are as they were. -/
structure Undisturbed (before after : Keeper L) : Prop where
  same : Keeper.Same before after
  closings : after.backend.closings = before.backend.closings

theorem answer_undisturbed (keeper : Keeper L) (mounted : Keeper.Mounted) (now : String)
    (reads : Nat) (request : Http.Request) :
    Undisturbed keeper (answer keeper mounted now reads request).keeper := by
  have hpools := Repository.closings_invariant (L := L) keeper.backend.closings
  unfold answer
  simp only
  split
  · rename_i handled hserve
    exact ⟨⟨rfl, rfl, rfl, rfl⟩, Http.serve_invariant hpools rfl mounted.coordinator now hserve⟩
  · exact ⟨⟨rfl, rfl, rfl, rfl⟩, Coordinator.waitFor_invariant hpools rfl _ _ reads _⟩

theorem answerAll_undisturbed (mounted : Keeper.Mounted) (now : String) (reads : Nat)
    (keeper : Keeper L) (requests : List Http.Request) :
    Undisturbed keeper (answerAll mounted now reads keeper requests).keeper := by
  induction requests generalizing keeper with
  | nil => exact ⟨.refl keeper, rfl⟩
  | cons request rest ih =>
    have hfirst := answer_undisturbed keeper mounted now reads request
    have hrest := ih (answer keeper mounted now reads request).keeper
    exact ⟨hfirst.same.trans hrest.same, hrest.closings.trans hfirst.closings⟩

/-! ## 2. Runs -/

theorem openPools_shutDown {keeper : Keeper L} {coordinator : Nat}
    (hready : keeper.phase = .ready 0 coordinator) (hpools : keeper.backend.closings = [false]) :
    keeper.shutDown.keeper.backend.openPools = [] := by
  have hstep := congrArg Prod.snd (Keeper.step_shutDown hready)
  change keeper.shutDown.keeper = _ at hstep
  rw [hstep]
  refine Backend.openPools_eq_nil ?_
  change ∀ isClosed ∈ (keeper.backend.close 0).closings, _
  rw [Backend.closings_close, hpools]
  simp

theorem listen_openPools (settings : Settings) {keeper : Keeper L} (coordinator : Nat)
    (now : String) (reads : Nat) (records : List LogRecord) (listening : Listening)
    (hready : ∃ coordinator, keeper.phase = .ready 0 coordinator)
    (hpools : keeper.backend.closings = [false]) :
    (listen settings keeper coordinator now reads records listening).backend.openPools = [] := by
  obtain ⟨held, hready⟩ := hready
  cases listening with
  | refused reason => exact openPools_shutDown hready hpools
  | «open» requests =>
    unfold listen
    simp only
    split
    · rename_i mounted _
      have hserved := answerAll_undisturbed mounted now reads keeper requests
      exact openPools_shutDown (hserved.same.phase.trans hready) (hserved.closings.trans hpools)
    · exact openPools_shutDown hready hpools

theorem start_openPools (settings : Settings) (waiting : CoordinatorSettings) (link : L)
    (now : String) (reads : Nat) (records : List LogRecord) (listening : Listening) :
    (start settings waiting link now reads records listening).backend.openPools = [] := by
  let keeper := Keeper.fresh waiting settings.createTables (Backend.mk link [])
  unfold start
  simp only
  split
  case h_1 error hresult =>
    -- What the failed set-up has opened is closed, and there was no pool before it.
    obtain ⟨more, hclosings, hclosed⟩ :=
      Keeper.closed_of_error (congrArg Keeper.Reply.taken hresult)
    change (keeper.setUp settings.target settings.table).keeper.backend.closings = more at hclosings
    refine Backend.openPools_eq_nil fun isClosed hmem => hclosed isClosed ?_
    rwa [← hclosings]
  case h_2 coordinator hresult =>
    obtain ⟨hclosings, hready⟩ := Keeper.ready_of_ok (congrArg Keeper.Reply.taken hresult)
    exact listen_openPools settings coordinator now reads _ listening ⟨_, hready⟩ hclosings

theorem run_openPools (settings : Settings) (link : L) (now : String) (reads : Nat)
    (listening : Listening) :
    (run settings link now reads listening).backend.openPools = [] := by
  unfold run
  simp only
  split
  · rfl
  split
  · rfl
  · exact start_openPools settings _ link now reads _ listening

end Service

/-! ## 3. No pool is left open -/

namespace Keeper

variable {L : Type} [Link L]

/-- Whatever is asked of a keeper and whatever the database answers, at most one of the pools that
it has opened is open, and that is the one it holds; a set-up that fails leaves none open; the pool
that is held is closed only by a shutdown, after its coordinator; and a service that has come to its
end has left no pool open. -/
theorem no_pool_left_open (settings : CoordinatorSettings) (createTables : Bool)
    (backend : Backend L) (calls : List (Call L)) (hfair : ∀ call ∈ calls, call.IsFair) :
    let start := fresh settings createTables backend
    let keeper := start.after calls
    -- After each call.
    (start.leftOpen calls = [] ∨
      ∃ pool coordinator, keeper.phase = .ready pool coordinator ∧
        start.leftOpen calls = [pool]) ∧
    -- Whether the next call sets a pool up, or fails to.
    (∀ target table error, (keeper.step (.setUp target table)).1 = .taken (.error error) →
      ∀ pool ∈ Call.opens keeper (.setUp target table),
        (keeper.step (.setUp target table)).2.backend.isClosed pool = true) ∧
    (∀ target table coordinator,
      (keeper.step (.setUp target table)).1 = .taken (.ok coordinator) →
      ∃ pool, Call.opens keeper (.setUp target table) = [pool] ∧
        (keeper.step (.setUp target table)).2.phase = .ready pool coordinator ∧
        (keeper.step (.setUp target table)).2.backend.isClosed pool = false) ∧
    -- From when a pool is held.
    (∀ pool coordinator, keeper.phase = .ready pool coordinator →
      (∃ mounted, keeper.mounted[coordinator]? = some mounted ∧ mounted.pool = pool) ∧
      (∀ later, keeper.acts later = [] ∨
        keeper.acts later = [.stopped coordinator, .closed pool]) ∧
      let stopped := Act.perform { keeper with phase := .shutDown } (.stopped coordinator)
      stopped.IsStopped coordinator ∧ stopped.backend = keeper.backend ∧
        (keeper.step .shutDown).2 = Act.perform stopped (.closed pool)) ∧
    -- When a service has ended.
    ∀ (settings : Settings) (link : L) now reads listening,
      (Service.run settings link now reads listening).backend.openPools = [] := by
  intro start keeper
  have haccounted := (accounted_fresh settings createTables backend).after hfair
  rw [List.nil_append] at haccounted
  refine ⟨haccounted.open_eq, fun target table error herror pool hmem => ?_,
    fun target table coordinator hok => ?_, fun pool coordinator hready => ?_,
    Service.run_openPools⟩
  · obtain ⟨more, hclosings, hclosed⟩ := closed_of_error herror
    rw [opens_setUp hclosings] at hmem
    obtain ⟨n, rfl⟩ := Nat.exists_eq_add_of_le (List.mem_range'_1.mp hmem).1
    rw [Backend.isClosed_append hclosings]
    cases hget : more[n]? with
    | none => rfl
    | some isClosed => exact hclosed isClosed (List.mem_of_getElem? hget)
  · obtain ⟨hclosings, hready⟩ := ready_of_ok hok
    obtain ⟨-, rfl, -⟩ := took_of_ok hok
    exact ⟨_, opens_setUp hclosings, hready, Backend.isClosed_append hclosings 0⟩
  · exact ⟨haccounted.built pool coordinator hready, acts_of_ready hready,
      shutDown_in_order haccounted hready⟩

/-- A keeper whose database makes the table and has no room for its index. -/
def cramped : Keeper Scripted :=
  fresh {} true (Backend.mk ⟨[noRows, noRows, .refused "no room"]⟩ [])

/-- An attempt to set a pool up, a use of that pool by somebody else, and another attempt. -/
def attempts : List (Call Scripted) :=
  [.setUp localTarget "jobs", .elsewhere fun backend => (backend.execute 0 "jobs" .createIndex).2,
    .setUp localTarget "jobs"]

/-- The first attempt fails at the index and leaves no pool open; the second one succeeds. -/
theorem held_after_refusal :
    (∀ call ∈ attempts, call.IsFair) ∧ cramped.opened attempts = [0, 1] ∧
      cramped.leftOpen attempts = [1] ∧
      ∀ later, (cramped.after attempts).acts later = [] ∨
        (cramped.after attempts).acts later = [.stopped 0, .closed 1] := by
  have hfair : ∀ call ∈ attempts, call.IsFair := by
    intro call hmem
    simp only [attempts, List.mem_cons, List.not_mem_nil, or_false] at hmem
    rcases hmem with rfl | rfl | rfl
    · trivial
    · intro backend
      have hclosings := backend.closings_execute 0 "jobs" .createIndex
      exact Backend.onward_of_closings (hclosings.trans (List.append_nil _).symm)
    · trivial
  have hready : (cramped.after attempts).phase = .ready 1 0 := by decide +kernel
  refine ⟨hfair, by decide +kernel, by decide +kernel, ?_⟩
  exact ((no_pool_left_open {} true _ attempts hfair).2.2.2.1 1 0 hready).2.1

end Keeper

end JobDesk
