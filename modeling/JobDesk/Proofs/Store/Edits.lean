import JobDesk.Store.Memory

/-!
# Edits — what can happen to the rows of a job table

Whatever is done to a table in memory puts a row behind the others, writes the code of a row,
removes a row, or leaves the rows alone.  `Sound` is what every edit preserves, and `Keeps` is what
every edit but the removal of its row preserves.
-/

namespace JobDesk.MemoryStore

/-! ## 1. Edits -/

inductive Edit where
  | keep
  | append (payload : Bytes)
  | setCode (id : Int64) (code : Int16)
  | delete (id : Int64)

def Edit.apply (store : MemoryStore) : Edit → MemoryStore
  | keep => store
  | append payload => store.append payload
  | setCode id code => store.setCode id code
  | delete id => store.delete id

def Edit.issues : Edit → Nat
  | append _ => 1
  | _ => 0

/-- Two tables that differ at most in whether they are closed and in the reads they have answered.
-/
structure SameRows (store other : MemoryStore) : Prop where
  rows : other.rows = store.rows
  lastId : other.lastId = store.lastId
  now : other.now = store.now

theorem SameRows.refl (store : MemoryStore) : SameRows store store := ⟨rfl, rfl, rfl⟩

theorem SameRows.trans {first second third : MemoryStore} (hfirst : SameRows first second)
    (hsecond : SameRows second third) : SameRows first third :=
  ⟨hsecond.rows.trans hfirst.rows, hsecond.lastId.trans hfirst.lastId,
    hsecond.now.trans hfirst.now⟩

/-- Two tables that differ at most in the reads they have answered. -/
def SameButReads (store other : MemoryStore) : Prop :=
  other = { store with statusReads := other.statusReads }

theorem SameButReads.refl (store : MemoryStore) : SameButReads store store := rfl

theorem SameButReads.trans {first second third : MemoryStore} (hfirst : SameButReads first second)
    (hsecond : SameButReads second third) : SameButReads first third := by
  unfold SameButReads at *
  rw [hsecond, hfirst]

theorem SameButReads.isClosed {store other : MemoryStore} (h : SameButReads store other) :
    other.isClosed = store.isClosed := by
  rw [h]

theorem SameButReads.sameRows {store other : MemoryStore} (h : SameButReads store other) :
    SameRows store other := by
  rw [h]
  exact ⟨rfl, rfl, rfl⟩

def Edit.Leads (edit : Edit) (store after : MemoryStore) : Prop :=
  SameRows (edit.apply store) after

variable {store after : MemoryStore} {id key : Int64} {edit : Edit}

/-! ## 2. Looking up -/

theorem SameRows.job? (h : SameRows store after) (id : Int64) : after.job? id = store.job? id := by
  unfold MemoryStore.job?
  rw [h.rows]

theorem lookup_cons_eq_ite (id first : Int64) (job : Job) (rest : List (Int64 × Job)) :
    ((first, job) :: rest).lookup id = if id = first then some job else rest.lookup id := by
  rw [List.lookup_cons]
  by_cases hid : id = first
  · rw [if_pos hid, beq_iff_eq.mpr hid]
  · rw [if_neg hid, beq_eq_false_iff_ne.mpr hid]

theorem job?_append (store : MemoryStore) (payload : Bytes) (id : Int64) :
    (store.append payload).job? id = (store.job? id).or
      (if id = store.lastId + 1 then
        some ⟨store.lastId + 1, Status.pending.code, payload, store.now⟩ else none) := by
  simp only [job?, append, List.lookup_append, lookup_cons_eq_ite, List.lookup_nil]

theorem job?_setCode (store : MemoryStore) (key : Int64) (code : Int16) (id : Int64) :
    (store.setCode key code).job? id =
      (store.job? id).map fun job => if id = key then { job with status := code } else job := by
  simp only [job?, setCode]
  induction store.rows with
  | nil => rfl
  | cons row rest ih =>
    obtain ⟨first, job⟩ := row
    simp only [List.map_cons, lookup_cons_eq_ite, ih]
    -- A row keeps its own id when its code is written.
    by_cases hid : id = first
    · simp [hid]
    · simp only [if_neg hid]

theorem job?_delete (store : MemoryStore) (key id : Int64) :
    (store.delete key).job? id = if id = key then none else store.job? id := by
  simp only [job?, delete]
  induction store.rows with
  | nil => simp
  | cons row rest ih =>
    obtain ⟨first, job⟩ := row
    rw [lookup_cons_eq_ite]
    by_cases hfirst : first = key
    -- The row is taken out, so only the rest is left to look in.
    · rw [List.filter_cons_of_neg (by simp [hfirst]), ih]
      by_cases hid : id = key
      · rw [if_pos hid, if_pos hid]
      · rw [if_neg hid, if_neg hid, if_neg fun heq => hid (heq.trans hfirst)]
    · rw [List.filter_cons_of_pos (by simp [hfirst]), lookup_cons_eq_ite, ih]
      by_cases hid : id = first
      · rw [if_pos hid, if_pos hid, if_neg fun heq => hfirst (hid.symm.trans heq)]
      · rw [if_neg hid, if_neg hid]

theorem SameRows.status? (h : SameRows store after) (id : Int64) :
    after.status? id = store.status? id := by
  rw [MemoryStore.status?, h.job?, MemoryStore.status?]

theorem status?_append (store : MemoryStore) (payload : Bytes) (id : Int64) :
    (store.append payload).status? id = (store.status? id).or
      (if id = store.lastId + 1 then some Status.pending.code else none) := by
  simp only [status?, job?_append]
  cases store.job? id with
  | some job => rfl
  | none => by_cases hid : id = store.lastId + 1 <;> simp [hid]

theorem status?_setCode (store : MemoryStore) (key : Int64) (code : Int16) (id : Int64) :
    (store.setCode key code).status? id =
      (store.status? id).map fun old => if id = key then code else old := by
  simp only [status?, job?_setCode]
  cases store.job? id with
  | none => rfl
  | some job => by_cases hid : id = key <;> simp [hid]

theorem status?_delete (store : MemoryStore) (key id : Int64) :
    (store.delete key).status? id = if id = key then none else store.status? id := by
  simp only [status?, job?_delete]
  by_cases hid : id = key <;> simp [hid]

/-! ## 3. Ids -/

/-- A table that has handed out the ids from one up to `issued`: each row stands under its own id,
and the rows stand in the order of their ids. -/
structure Sound (store : MemoryStore) (issued : Nat) : Prop where
  lastId : store.lastId.toInt = issued
  keyed : ∀ row ∈ store.rows, 0 < row.1.toInt ∧ row.1.toInt ≤ issued ∧ row.2.id = row.1
  ordered : store.rows.Pairwise fun row other => row.1.toInt < other.1.toInt

theorem toInt_succ {id : Int64} {n : Nat} (hid : id.toInt = n)
    (hroom : n + 1 < 0x8000000000000000) : (id + 1).toInt = (n + 1 : Nat) := by
  rw [Int64.toInt_add, hid]
  have hone : (1 : Int64).toInt = 1 := rfl
  -- There is room for the next id, so that it does not wrap around.
  rw [hone, Int.bmod_def]
  omega

theorem sound_empty (now : Moment) : Sound { now := now } 0 :=
  ⟨rfl, fun _ hrow => absurd hrow List.not_mem_nil, List.Pairwise.nil⟩

theorem Sound.sameRows {issued : Nat} (h : Sound store issued) (hsame : SameRows store after) :
    Sound after issued := by
  obtain ⟨hrows, hlast, -⟩ := hsame
  constructor
  · rw [hlast, h.lastId]
  · rw [hrows]
    exact h.keyed
  · rw [hrows]
    exact h.ordered

theorem Sound.append {issued : Nat} (h : Sound store issued)
    (hroom : issued + 1 < 0x8000000000000000) (payload : Bytes) :
    Sound (store.append payload) (issued + 1) := by
  have hnext := toInt_succ h.lastId hroom
  constructor
  · exact hnext
  · intro row hrow
    rcases List.mem_append.mp hrow with hold | hnew
    · obtain ⟨hpos, hle, hid⟩ := h.keyed row hold
      exact ⟨hpos, by omega, hid⟩
    · obtain rfl := List.mem_singleton.mp hnew
      simp only
      exact ⟨by omega, by omega, trivial⟩
  · refine List.pairwise_append.mpr ⟨h.ordered, List.pairwise_singleton _ _, ?_⟩
    intro row hrow other hother
    obtain rfl := List.mem_singleton.mp hother
    -- The new id is above every id that was handed out.
    have hle := (h.keyed row hrow).2.1
    simp only
    omega

theorem Sound.setCode {issued : Nat} (h : Sound store issued) (id : Int64) (code : Int16) :
    Sound (store.setCode id code) issued := by
  constructor
  · exact h.lastId
  · intro row hrow
    obtain ⟨old, hold, rfl⟩ := List.mem_map.mp hrow
    obtain ⟨hpos, hle, hid⟩ := h.keyed old hold
    refine ⟨hpos, hle, ?_⟩
    simp only
    split <;> exact hid
  · exact List.pairwise_map.mpr h.ordered

theorem Sound.delete {issued : Nat} (h : Sound store issued) (id : Int64) :
    Sound (store.delete id) issued :=
  ⟨h.lastId, fun row hrow => h.keyed row (List.mem_filter.mp hrow).1, h.ordered.filter _⟩

theorem Sound.leads {issued : Nat} (h : Sound store issued)
    (hroom : issued + edit.issues < 0x8000000000000000) (hleads : edit.Leads store after) :
    Sound after (issued + edit.issues) := by
  -- Being closed and having been read are nothing to soundness.
  refine Sound.sameRows ?_ hleads
  cases edit with
  | keep => exact h
  | append payload => exact h.append hroom payload
  | setCode id code => exact h.setCode id code
  | delete id => exact h.delete id

theorem Sound.job?_next {issued : Nat} (h : Sound store issued)
    (hroom : issued + 1 < 0x8000000000000000) : store.job? (store.lastId + 1) = none := by
  unfold MemoryStore.job?
  rw [List.lookup_eq_none_iff]
  intro row hrow
  have hnext := toInt_succ h.lastId hroom
  have hle := (h.keyed row hrow).2.1
  simp only [bne_iff_ne, ne_eq]
  intro hid
  rw [hid] at hnext
  omega

theorem Sound.filter_rows {issued : Nat} (h : Sound store issued) (id : Int64) :
    store.rows.filter (·.1 == id) = (store.job? id).toList.map (id, ·) := by
  have hordered := h.ordered
  unfold MemoryStore.job?
  generalize store.rows = rows at hordered
  induction rows with
  | nil => rfl
  | cons row rest ih =>
    obtain ⟨key, job⟩ := row
    obtain ⟨hbelow, hrest⟩ := List.pairwise_cons.mp hordered
    rw [lookup_cons_eq_ite]
    by_cases hid : id = key
    · subst hid
      have hnone : rest.filter (·.1 == id) = [] := by
        refine List.filter_eq_nil_iff.mpr fun other hmem heq => ?_
        have hlt := hbelow other hmem
        rw [eq_of_beq heq] at hlt
        exact Int.lt_irrefl _ hlt
      rw [if_pos rfl, List.filter_cons, if_pos (beq_self_eq_true id), hnone]
      rfl
    · have hskip : ¬ (key == id) = true := fun heq => hid (eq_of_beq heq).symm
      rw [if_neg hid, List.filter_cons, if_neg hskip]
      exact ih hrest

theorem Sound.job?_of_mem {issued : Nat} (h : Sound store issued) {job : Job}
    (hmem : (key, job) ∈ store.rows) : store.job? key = some job := by
  have hfound : (key, job) ∈ store.rows.filter (·.1 == key) :=
    List.mem_filter.mpr ⟨hmem, beq_self_eq_true key⟩
  rw [h.filter_rows key] at hfound
  obtain ⟨other, hother, heq⟩ := List.mem_map.mp hfound
  rw [← (Prod.mk.inj heq).2]
  exact Option.mem_toList.mp hother

theorem Sound.id_of_job? {issued : Nat} (h : Sound store issued) {job : Job}
    (hjob : store.job? key = some job) : job.id = key := by
  have hmem : (key, job) ∈ store.rows.filter (·.1 == key) := by
    rw [h.filter_rows key, hjob]
    exact List.mem_singleton_self _
  exact (h.keyed _ (List.mem_filter.mp hmem).1).2.2

/-! ## 4. Rows -/

def Keeps (store : MemoryStore) (id : Int64) (payload : Bytes) (created : Moment) : Prop :=
  ∃ code, store.job? id = some ⟨id, code, payload, created⟩

theorem keeps_append {payload : Bytes} (hfree : store.job? (store.lastId + 1) = none) :
    (store.append payload).Keeps (store.lastId + 1) payload store.now :=
  ⟨Status.pending.code, by rw [job?_append, hfree]; simp⟩

theorem Keeps.leads {payload : Bytes} {created : Moment} (h : store.Keeps id payload created)
    (hkept : edit ≠ .delete id) (hleads : edit.Leads store after) :
    after.Keeps id payload created := by
  obtain ⟨code, hjob⟩ := h
  unfold Keeps
  rw [SameRows.job? hleads]
  cases edit with
  | keep => exact ⟨code, hjob⟩
  -- A new row stands behind the others, so the one that is there is found first.
  | append other => exact ⟨code, by rw [Edit.apply, job?_append, hjob]; rfl⟩
  | setCode key new =>
    simp only [Edit.apply, job?_setCode, hjob, Option.map_some]
    by_cases hid : id = key
    · exact ⟨new, by rw [if_pos hid]⟩
    · exact ⟨code, by rw [if_neg hid]⟩
  | delete key =>
    have hid : id ≠ key := fun heq => hkept (by rw [heq])
    exact ⟨code, by rw [Edit.apply, job?_delete, if_neg hid, hjob]⟩

end JobDesk.MemoryStore
