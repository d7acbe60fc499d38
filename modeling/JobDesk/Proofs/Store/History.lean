import JobDesk.Proofs.Desk.Edits

/-!
# History — what becomes of the rows of a table

Somebody uses a table in memory, one operation after the other, while time passes.  Each row comes
from the insertion that answered with its id, keeps its payload and its time for as long as it is
there, and goes when it is removed.  The ids are handed out from one upwards, so that none is handed
out twice, and a closed table refuses what only an open one does.
-/

namespace JobDesk

/-- Whether an action is an operation of job tables, which a closed table refuses. -/
def TableAction.needsOpen : TableAction → Bool
  | .insert _ | .setStatus .. | .setStatusIf .. | .fetchStatus _ | .fetchJob _ => true
  | .setCode .. | .delete _ | .close => false

def Answer.isPlain : Answer → Bool
  | .done | .flag _ | .code _ | .job _ => true
  | .id _ | .refused _ | .failed _ => false

def Answer.id? : Answer → Option Int64
  | .id new => some new
  | _ => none

inductive TableEvent where
  | act (action : TableAction)
  /-- Time passes. -/
  | tick (now : Moment)

namespace MemoryStore

variable {α : Type} {store next : MemoryStore} {event : TableEvent} {answer : Answer} {id : Int64}

/-! ## 1. Runs -/

def apply (store : MemoryStore) : TableEvent → Answer × MemoryStore
  | .act action => Desk.act store action
  | .tick now => (.done, { store with now := now })

def after (store : MemoryStore) (events : List TableEvent) : MemoryStore :=
  events.foldl (fun store event => (store.apply event).2) store

def answers : MemoryStore → List TableEvent → List Answer
  | _, [] => []
  | store, event :: rest => (store.apply event).1 :: answers (store.apply event).2 rest

def newIds (store : MemoryStore) (events : List TableEvent) : List Int64 :=
  (store.answers events).filterMap Answer.id?

theorem after_append (store : MemoryStore) (events more : List TableEvent) :
    store.after (events ++ more) = (store.after events).after more :=
  List.foldl_append

theorem newIds_cons (store : MemoryStore) (event : TableEvent) (rest : List TableEvent) :
    store.newIds (event :: rest) =
      (store.apply event).1.id?.toList ++ (store.apply event).2.newIds rest := by
  rw [newIds, answers, List.filterMap_cons]
  cases (store.apply event).1.id? <;> rfl

theorem newIds_append (store : MemoryStore) (events more : List TableEvent) :
    store.newIds (events ++ more) = store.newIds events ++ (store.after events).newIds more := by
  induction events generalizing store with
  | nil => rfl
  | cons event rest ih =>
    rw [List.cons_append, newIds_cons, newIds_cons, ih, List.append_assoc]
    rfl

/-! ## 2. One event -/

inductive Goes (store : MemoryStore) : TableEvent → Answer → MemoryStore → Prop
  | refused {action : TableAction} (hneeds : action.needsOpen = true)
      (hclosed : store.isClosed = true) : Goes store (.act action) (.failed .poolClosed) store
  | inserted (payload : Bytes) :
      Goes store (.act (.insert payload)) (.id (store.lastId + 1)) (store.append payload)
  | wrote {event : TableEvent} {answer : Answer} (id : Int64) (code : Int16)
      (hanswer : answer.isPlain = true) : Goes store event answer (store.setCode id code)
  | kept {event : TableEvent} {answer : Answer} {next : MemoryStore}
      (hanswer : answer.isPlain = true) (hrows : SameRows store next) :
      Goes store event answer next
  | removed (id : Int64) : Goes store (.act (.delete id)) .done (store.delete id)
  | ticked (now : Moment) : Goes store (.tick now) .done { store with now := now }

theorem goes_whenOpen {action : TableAction} (hneeds : action.needsOpen = true)
    (answer : α → Answer) {operation : α × MemoryStore}
    (h : Goes store (.act action) (answer operation.1) operation.2) :
    Goes store (.act action) (Desk.storeAnswer answer (store.whenOpen operation).1)
      (store.whenOpen operation).2 := by
  rcases store.whenOpen_spec operation with ⟨heq, hclosed⟩ | ⟨heq, -⟩
  · rw [heq]
    exact .refused hneeds hclosed
  · rw [heq]
    exact h

theorem goes (store : MemoryStore) (event : TableEvent) :
    Goes store event (store.apply event).1 (store.apply event).2 := by
  cases event with
  | tick now => exact .ticked now
  | act action =>
    cases action with
    | insert payload => exact goes_whenOpen rfl .id (.inserted payload)
    | setStatus id status => exact goes_whenOpen rfl (fun _ => .done) (.wrote id status.code rfl)
    | setStatusIf id expected new =>
      apply goes_whenOpen rfl .flag
      split
      · exact .wrote id new.code rfl
      · exact .kept rfl (.refl store)
    | fetchStatus id => exact goes_whenOpen rfl .code (.kept rfl ⟨rfl, rfl, rfl⟩)
    | fetchJob id => exact goes_whenOpen rfl .job (.kept rfl (.refl store))
    | setCode id code => exact .wrote id code rfl
    | delete id => exact .removed id
    | close => exact .kept rfl ⟨rfl, rfl, rfl⟩

/-- What a closed table refuses leaves it just as it was, the number of reads included. -/
theorem apply_closed {action : TableAction} (hneeds : action.needsOpen = true)
    (hclosed : store.isClosed = true) :
    store.apply (.act action) = (.failed .poolClosed, store) := by
  have hrefused : ∀ {α : Type} (operation : α × MemoryStore),
      store.whenOpen operation = (.error .poolClosed, store) := fun _ => if_pos hclosed
  cases action with
  | insert | setStatus | setStatusIf | fetchStatus | fetchJob =>
    exact congrArg (fun result => (Desk.storeAnswer _ result.1, result.2)) (hrefused _)
  | setCode | delete | close => cases hneeds

theorem isClosed_whenOpen {operation : α × MemoryStore}
    (h : operation.2.isClosed = store.isClosed) :
    (store.whenOpen operation).2.isClosed = store.isClosed := by
  rcases store.whenOpen_spec operation with ⟨heq, -⟩ | ⟨heq, -⟩
  · rw [heq]
  · rw [heq]
    exact h

/-- A table is closed by nothing but closing it, and never opened again. -/
theorem isClosed_apply (store : MemoryStore) (event : TableEvent) :
    (store.apply event).2.isClosed = true ↔ store.isClosed = true ∨ event = .act .close := by
  cases event with
  | tick now => simp [apply]
  | act action =>
    have hsame : action ≠ .close → (Desk.act store action).2.isClosed = store.isClosed := by
      intro hother
      cases action with
      | insert | setStatus | fetchStatus | fetchJob => exact isClosed_whenOpen rfl
      | setStatusIf =>
        apply isClosed_whenOpen
        split <;> rfl
      | setCode | delete => rfl
      | close => exact absurd rfl hother
    by_cases hclose : action = .close
    · subst hclose
      simp [apply, Desk.act, close]
    · simp [apply, hsame hclose, hclose]

theorem isClosed_after (store : MemoryStore) (events : List TableEvent) :
    (store.after events).isClosed = true ↔ store.isClosed = true ∨ .act .close ∈ events := by
  induction events generalizing store with
  | nil => simp [after]
  | cons event rest ih =>
    show ((store.apply event).2.after rest).isClosed = true ↔ _
    rw [ih, isClosed_apply, List.mem_cons, or_assoc, eq_comm (a := event)]

/-! ## 3. One row in one event -/

theorem Goes.made (h : Goes store event answer next) {job : Job} (hbefore : store.job? id = none)
    (hafter : next.job? id = some job) :
    ∃ payload, event = .act (.insert payload) ∧ answer = .id id ∧
      job = ⟨id, Status.pending.code, payload, store.now⟩ := by
  cases h with
  | refused | ticked => exact absurd (hbefore.symm.trans hafter) (by simp)
  | kept _ hrows =>
    rw [hrows.job?, hbefore] at hafter
    cases hafter
  | wrote =>
    rw [job?_setCode, hbefore] at hafter
    cases hafter
  | removed =>
    rw [job?_delete, hbefore, ite_self] at hafter
    cases hafter
  | inserted payload =>
    rw [job?_append, hbefore, Option.none_or] at hafter
    split at hafter
    · rename_i hid
      exact ⟨payload, rfl, by rw [hid], by rw [hid, Option.some.inj hafter]⟩
    · cases hafter

theorem Goes.gone (h : Goes store event answer next) {job : Job}
    (hbefore : store.job? id = some job) (hafter : next.job? id = none) :
    event = .act (.delete id) := by
  cases h with
  | refused | ticked => exact absurd (hbefore.symm.trans hafter) (by simp)
  | kept _ hrows =>
    rw [hrows.job?, hbefore] at hafter
    cases hafter
  | wrote =>
    rw [job?_setCode, hbefore] at hafter
    cases hafter
  | inserted =>
    rw [job?_append, hbefore] at hafter
    cases hafter
  | removed key =>
    rw [job?_delete] at hafter
    split at hafter
    · rename_i hid
      rw [hid]
    · rw [hbefore] at hafter
      cases hafter

theorem Goes.same (h : Goes store event answer next) {job new : Job}
    (hbefore : store.job? id = some job) (hafter : next.job? id = some new) :
    new = { job with status := new.status } := by
  cases h with
  | refused | ticked =>
    obtain rfl := Option.some.inj (hbefore.symm.trans hafter)
    rfl
  | kept _ hrows =>
    rw [hrows.job?, hbefore] at hafter
    obtain rfl := Option.some.inj hafter
    rfl
  | wrote =>
    rw [job?_setCode, hbefore, Option.map_some] at hafter
    obtain rfl := Option.some.inj hafter
    split <;> rfl
  | inserted =>
    rw [job?_append, hbefore, Option.some_or] at hafter
    obtain rfl := Option.some.inj hafter
    rfl
  | removed =>
    rw [job?_delete, hbefore] at hafter
    split at hafter
    · cases hafter
    · obtain rfl := Option.some.inj hafter
      rfl

theorem keeps_apply {payload : Bytes} {created : Moment} (h : store.Keeps id payload created)
    (hkept : event ≠ .act (.delete id)) : (store.apply event).2.Keeps id payload created := by
  obtain ⟨code, hbefore⟩ := h
  cases hafter : (store.apply event).2.job? id with
  | none => exact absurd ((store.goes event).gone hbefore hafter) hkept
  | some new =>
    refine ⟨new.status, hafter.trans ?_⟩
    rw [(store.goes event).same hbefore hafter]

theorem keeps_after {payload : Bytes} {created : Moment} {events : List TableEvent}
    (h : store.Keeps id payload created) (hkept : .act (.delete id) ∉ events) :
    (store.after events).Keeps id payload created := by
  induction events generalizing store with
  | nil => exact h
  | cons event rest ih =>
    rw [List.mem_cons, not_or] at hkept
    exact ih (keeps_apply h fun heq => hkept.1 heq.symm) hkept.2

/-! ## 4. Ids -/

theorem id?_of_isPlain (h : answer.isPlain = true) : answer.id? = none := by
  cases answer with
  | done | flag | code | job => rfl
  | id | refused | failed => cases h

theorem Sound.goes {issued : Nat} (h : Sound store issued) (hgoes : Goes store event answer next)
    (hroom : issued + answer.id?.toList.length < 0x8000000000000000) :
    Sound next (issued + answer.id?.toList.length) ∧
      ∀ id, answer = .id id → store.job? id = none ∧ id.toInt = (issued + 1 : Nat) := by
  have hplain : ∀ {answer : Answer}, answer.isPlain = true →
      answer.id?.toList.length = 0 ∧ ∀ id, answer ≠ .id id := by
    intro answer hanswer
    rw [id?_of_isPlain hanswer]
    refine ⟨rfl, fun id heq => ?_⟩
    rw [heq] at hanswer
    cases hanswer
  cases hgoes with
  | inserted payload =>
    refine ⟨h.append hroom payload, fun id heq => ?_⟩
    obtain rfl := Answer.id.inj heq
    exact ⟨h.job?_next hroom, toInt_succ h.lastId hroom⟩
  | wrote id code hanswer =>
    obtain ⟨hnone, hid⟩ := hplain hanswer
    rw [hnone]
    exact ⟨h.setCode id code, fun id heq => absurd heq (hid id)⟩
  | kept hanswer hrows =>
    obtain ⟨hnone, hid⟩ := hplain hanswer
    rw [hnone]
    exact ⟨h.sameRows hrows, fun id heq => absurd heq (hid id)⟩
  | removed id => exact ⟨h.delete id, nofun⟩
  | refused => exact ⟨h, nofun⟩
  | ticked => exact ⟨⟨h.lastId, h.keyed, h.ordered⟩, nofun⟩

theorem Sound.newIds {issued : Nat} {events : List TableEvent} (h : Sound store issued)
    (hroom : issued + (store.newIds events).length < 0x8000000000000000) :
    Sound (store.after events) (issued + (store.newIds events).length) ∧
      (store.newIds events).map Int64.toInt =
        (List.range' (issued + 1) (store.newIds events).length).map Int.ofNat := by
  induction events generalizing store issued with
  | nil => exact ⟨h, rfl⟩
  | cons event rest ih =>
    rw [newIds_cons, List.length_append] at hroom ⊢
    obtain ⟨hnext, hid⟩ := h.goes (store.goes event) (by omega)
    obtain ⟨hlast, hids⟩ := ih hnext (by omega)
    rw [← Nat.add_assoc]
    refine ⟨hlast, ?_⟩
    rw [List.map_append, hids, ← List.range'_append_1, List.map_append, Nat.add_right_comm issued 1]
    congr 1
    cases hanswer : (store.apply event).1 with
    | id id =>
      have hint := (hid id hanswer).2
      simp [Answer.id?, hint]
    | done | flag | code | job | refused | failed => rfl

/-! ## 5. Whole runs -/

/-- What an event does to the rows of the table that it finds. -/
structure Accounts (found : MemoryStore) (event : TableEvent) : Prop where
  /-- A row appears only by the insertion that answers with its id. -/
  made : ∀ id job, found.job? id = none → (found.apply event).2.job? id = some job →
    (found.apply event).1 = .id id
  /-- An id is answered by an insertion alone, and stands for its row from then on. -/
  answered : ∀ id, (found.apply event).1 = .id id → ∃ payload, event = .act (.insert payload) ∧
    found.job? id = none ∧
    (found.apply event).2.job? id = some ⟨id, Status.pending.code, payload, found.now⟩
  /-- A row disappears when it is removed, and only then. -/
  gone : ∀ id job, found.job? id = some job →
    ((found.apply event).2.job? id = none ↔ event = .act (.delete id))
  /-- Of a row that stays, only the status can change. -/
  same : ∀ id job new, found.job? id = some job → (found.apply event).2.job? id = some new →
    new.id = job.id ∧ new.payload = job.payload ∧ new.created = job.created

theorem accounts {issued : Nat} (h : Sound store issued) (event : TableEvent)
    (hroom : issued + (store.newIds [event]).length < 0x8000000000000000) :
    store.Accounts event where
  made id job hbefore hafter := by
    obtain ⟨_, -, hanswer, -⟩ := (store.goes event).made hbefore hafter
    exact hanswer
  answered id hanswer := by
    rw [newIds_cons, List.length_append] at hroom
    have hnone := ((h.goes (store.goes event) (by omega)).2 id hanswer).1
    have hgoes := store.goes event
    generalize (store.apply event).2 = next at hgoes ⊢
    rw [hanswer] at hgoes
    cases hgoes with
    | inserted payload => exact ⟨payload, rfl, hnone, by rw [job?_append, hnone]; simp⟩
    | wrote _ _ hplain => cases hplain
    | kept hplain => cases hplain
  gone id job hbefore := by
    refine ⟨(store.goes event).gone hbefore, fun hevent => ?_⟩
    rw [hevent]
    exact (store.job?_delete id id).trans (if_pos rfl)
  same id job new hbefore hafter := by
    rw [(store.goes event).same hbefore hafter]
    exact ⟨rfl, rfl, rfl⟩

theorem apply_open {action : TableAction} (hopen : store.isClosed = false) (error : StoreError) :
    (store.apply (.act action)).1 ≠ .failed error := by
  have hgoes := store.goes (.act action)
  generalize (store.apply (.act action)).2 = next at hgoes
  intro hanswer
  rw [hanswer] at hgoes
  cases hgoes with
  | refused _ hclosed =>
    rw [hopen] at hclosed
    cases hclosed
  | wrote _ _ hplain => cases hplain
  | kept hplain => cases hplain

/-- What becomes of the rows of a new table, however it is used. Each row stands under its own id,
which is one of those handed out; the ids handed out are one, two, three and so on, none of them
twice. A row appears by the insertion that answers with its id and disappears when it is removed,
and in between it keeps its payload and its time. A table that has been closed refuses each
operation and stays just as it is, and one that has not lets each through. -/
theorem rows_accounted (now : Moment) (events : List TableEvent)
    (hroom : (newIds { now := now } events).length < 0x7fffffffffffffff) :
    let start : MemoryStore := { now := now }
    let last := start.after events
    let ids := start.newIds events
    (∀ row ∈ last.rows, row.2.id = row.1 ∧ 1 ≤ row.1.toInt ∧ row.1.toInt ≤ last.lastId.toInt) ∧
    last.rows.Pairwise (fun row other => row.1 ≠ other.1) ∧
    ids.map Int64.toInt = (List.range' 1 ids.length).map Int.ofNat ∧
    ids.Pairwise (fun id later => id.toInt < later.toInt) ∧
    (∀ before event later, events = before ++ event :: later →
      let found := start.after before
      found.Accounts event ∧
      ∀ action, event = .act action → action.needsOpen = true →
        (.act .close ∈ before → found.apply event = (.failed .poolClosed, found)) ∧
        (.act .close ∉ before → ∀ error, (found.apply event).1 ≠ .failed error)) ∧
    ∀ before payload between later id, events =
        before ++ .act (.insert payload) :: (between ++ later) →
      let found := start.after before
      (found.apply (.act (.insert payload))).1 = .id id → .act (.delete id) ∉ between →
      ∃ code, (start.after (before ++ .act (.insert payload) :: between)).job? id =
        some ⟨id, code, payload, found.now⟩ := by
  intro start last ids
  replace hroom : 0 + (start.newIds events).length < 0x8000000000000000 := by
    rw [Nat.zero_add]
    exact Nat.lt_trans hroom (by decide)
  have hsound : Sound start 0 := sound_empty now
  obtain ⟨hlast, hids⟩ := hsound.newIds hroom
  -- The table before each event is sound, and has room for as many ids as are still handed out.
  have haccounts : ∀ before event later, events = before ++ event :: later →
      (start.after before).Accounts event := by
    rintro before event later rfl
    rw [← List.singleton_append, newIds_append, newIds_append, List.length_append,
      List.length_append] at hroom
    obtain ⟨hfound, -⟩ := @Sound.newIds start 0 before hsound (by omega)
    exact accounts hfound event (by omega)
  refine ⟨?_, ?_, hids, ?_, ?_, ?_⟩
  · intro row hrow
    obtain ⟨hpos, hle, hid⟩ := hlast.keyed row hrow
    exact ⟨hid, hpos, Int.le_trans hle (Int.le_of_eq hlast.lastId.symm)⟩
  · refine hlast.ordered.imp fun hlt heq => ?_
    rw [heq] at hlt
    exact Int.lt_irrefl _ hlt
  · rw [← List.pairwise_map (f := Int64.toInt) (R := (· < ·)), hids, List.pairwise_map]
    exact (List.pairwise_lt_range' 1).imp Int.ofNat_lt.mpr
  · intro before event later hevents
    refine ⟨haccounts before event later hevents, ?_⟩
    rintro action rfl hneeds
    have hclosed := start.isClosed_after before
    refine ⟨fun hmem => apply_closed hneeds (hclosed.mpr (.inr hmem)), fun hmem => ?_⟩
    apply apply_open
    rw [← Bool.not_eq_true, hclosed, not_or]
    exact ⟨Bool.false_ne_true, hmem⟩
  · intro before payload between later id hevents found hanswer hkept
    obtain ⟨_, hevent, -, hjob⟩ := (haccounts before _ _ hevents).answered id hanswer
    obtain rfl := TableAction.insert.inj (TableEvent.act.inj hevent)
    rw [after_append]
    exact @keeps_after (found.apply _).2 id payload found.now between ⟨_, hjob⟩ hkept

/-- The newest row is removed, and its id is not handed out again. -/
theorem rows_accounted_after_removal :
    let events : List TableEvent := [.act (.insert #[1]), .act (.insert #[2]), .act (.delete 2),
      .tick ⟨7, 0⟩, .act (.insert #[3]), .act (.setCode 3 9), .act .close, .act (.fetchStatus 3)]
    let start : MemoryStore := {}
    (start.newIds events).length < 0x7fffffffffffffff ∧
      (start.newIds events).map Int64.toInt = [1, 2, 3] ∧
      ∃ code, (start.after events).job? 3 = some ⟨3, code, #[3], ⟨7, 0⟩⟩ := by
  intro events start
  have hlength : (start.newIds events).length = 3 := by decide +kernel
  have hroom : (start.newIds events).length < 0x7fffffffffffffff := by
    rw [hlength]
    decide
  obtain ⟨-, -, hids, -, -, hkept⟩ := rows_accounted ⟨0, 0⟩ events hroom
  refine ⟨hroom, ?_, hkept (events.take 4) #[3] (events.drop 5) [] 3 rfl (by decide +kernel) ?_⟩
  · rw [hlength] at hids
    exact hids
  · simp [events]

end MemoryStore

end JobDesk
