import JobDesk.Proofs.Postgres.Refinement
import JobDesk.Proofs.Postgres.Splicing

/-!
# Index names — what is left of them in the database

A database stores a name by its first 63 bytes, and tables and indexes share their names.  The name
of the index on a table is longer than that of the table: for a table with more than 52 characters
it is cut.  What is left of it can be the name of the table itself, so that no index is made, or
what is left of the name of the index on another table.
-/

namespace JobDesk.Postgres

/-! ## 1. Stored names -/

def stored (name : String) : List UInt8 := (Bytes.ofText name).toList.take 63

def indexSuffix : List Char := ['_', 's', 't', 'a', 't', 'u', 's', '_', 'i', 'd', 'x']

variable {table other : String}

theorem parts_of_isIdentifier (h : isIdentifier table = true) :
    ∀ c ∈ table.toList, isIdentifierPart c = true :=
  List.all_eq_true.mp (word_of_isIdentifier h).2

theorem length_le_of_isIdentifier (h : isIdentifier table = true) : table.toList.length ≤ 63 := by
  rw [String.length_toList]
  exact ((isIdentifier_iff table).mp h).short

theorem toList_indexName (table : String) :
    (indexName table).toList = table.toList ++ indexSuffix := by
  have hsuffix : "_status_idx".toList = indexSuffix := by decide +kernel
  have happend : (indexName table).toList = table.toList ++ "_status_idx".toList :=
    String.toList_append
  rw [happend, hsuffix]

theorem parts_indexName (h : isIdentifier table = true) :
    ∀ c ∈ (indexName table).toList, isIdentifierPart c = true := by
  rw [toList_indexName]
  exact List.forall_mem_append.mpr
    ⟨parts_of_isIdentifier h, List.all_eq_true.mp (by decide +kernel)⟩

/-- Of names of identifier characters, the first 63 characters are stored. -/
theorem stored_eq_iff (htable : ∀ c ∈ table.toList, isIdentifierPart c = true)
    (hother : ∀ c ∈ other.toList, isIdentifierPart c = true) :
    stored table = stored other ↔ table.toList.take 63 = other.toList.take 63 := by
  have hbytes : ∀ name : String, (∀ c ∈ name.toList, isIdentifierPart c = true) →
      stored name = (name.toList.take 63).map fun c => UInt8.ofNat c.toNat := fun name h => by
    rw [stored, toList_ofText_ascii fun c hc => toNat_lt_of_isIdentifierPart (h c hc),
      List.map_take]
  -- A byte below 128 is the code point of its character.
  have hread : ∀ name : String, (∀ c ∈ name.toList, isIdentifierPart c = true) →
      (stored name).map (fun byte => Char.ofNat byte.toNat) = name.toList.take 63 :=
    fun name h => by
    rw [hbytes name h, List.map_map, List.map_congr_left (g := id), List.map_id]
    intro c hc
    have hlt := toNat_lt_of_isIdentifierPart (h c (List.mem_of_mem_take hc))
    rw [Function.comp_apply, UInt8.toNat_ofNat_of_lt' (by show _ < 256; omega), Char.ofNat_toNat]
    rfl
  constructor
  · intro heq
    rw [← hread table htable, ← hread other hother, heq]
  · intro heq
    rw [hbytes table htable, hbytes other hother, heq]

/-- What is left of the name of an index: the table, and as much of the rest as there is room for.
-/
theorem take_indexName (h : isIdentifier table = true) :
    (indexName table).toList.take 63 =
      table.toList ++ indexSuffix.take (63 - table.toList.length) := by
  rw [toList_indexName, List.take_append, List.take_of_length_le (length_le_of_isIdentifier h)]

/-! ## 2. Names that are left whole -/

/-- The name of an index is a plain identifier if that of its table leaves room for the rest. -/
theorem isIdentifier_indexName_iff (h : isIdentifier table = true) :
    isIdentifier (indexName table) = true ↔ table.length ≤ 52 := by
  have hlength : (indexName table).length = table.length + 11 := by
    rw [← String.length_toList, toList_indexName, List.length_append, String.length_toList]
    rfl
  have hplain := (isIdentifier_iff table).mp h
  rw [isIdentifier_iff]
  constructor
  · intro hindex
    have hshort := hindex.short
    omega
  · intro hroom
    refine ⟨by omega, by omega, fun c hc => ?_,
      fun c hc => (isIdentifierPart_iff c).mp (parts_indexName h c hc)⟩
    rw [toList_indexName, List.head?_append_of_ne_nil] at hc
    · exact hplain.start c hc
    · intro hnil
      have hnonempty := hplain.nonempty
      rw [← String.length_toList, hnil] at hnonempty
      exact absurd hnonempty (by decide)

/-- The name of an index is stored as that of its table if that leaves no room at all. -/
theorem stored_indexName_eq_iff (h : isIdentifier table = true) :
    stored (indexName table) = stored table ↔ table.length = 63 := by
  have hle := length_le_of_isIdentifier h
  rw [stored_eq_iff (parts_indexName h) (parts_of_isIdentifier h), take_indexName h,
    List.take_of_length_le hle, List.append_right_eq_self, List.take_eq_nil_iff,
    ← String.length_toList]
  constructor
  · rintro (hroom | hsuffix)
    · omega
    · cases hsuffix
  · intro hfull
    exact .inl (by omega)

/-! ## 3. Names of two indexes -/

/-- A name that runs into another one with what stands behind it in the name of its index: the other
name is what is stored of that of the index, or has all of it but the end. -/
def Overlaps (table other : String) : Prop :=
  (other.length = 63 ∧ other.toList <+: (indexName table).toList) ∨
    (table.length = 55 ∧ other = table ++ "_status")

theorem drop_take_indexSuffix : ∀ m < 12, ∀ n < m,
    (indexSuffix.take m).drop (m - n) = indexSuffix.take n ↔ n = 0 ∨ (m = 8 ∧ n = 1) := by
  decide

/-- A beginning of the suffix that is a text and a shorter beginning behind it: there is nothing
behind the text, or it is all but the last character of `_status_`. -/
theorem take_indexSuffix_eq_append {m n : Nat} {rest : List Char} (hne : rest ≠ [])
    (hm : m = n + rest.length) (h : indexSuffix.take m = rest ++ indexSuffix.take n) :
    (n = 0 ∧ rest = indexSuffix.take m) ∨ (m = 8 ∧ n = 1 ∧ rest = indexSuffix.take 7) := by
  have hpos := List.length_pos_iff.mpr hne
  have hsuffix : indexSuffix.length = 11 := rfl
  have hlengths := congrArg List.length h
  rw [List.length_append, List.length_take, List.length_take, hsuffix] at hlengths
  have hdrop : (indexSuffix.take m).drop (m - n) = indexSuffix.take n := by
    rw [h, show m - n = rest.length by omega, List.drop_left]
  have htake : (indexSuffix.take m).take rest.length = rest := by
    rw [h, List.take_left]
  rcases (drop_take_indexSuffix m (by omega) n (by omega)).mp hdrop with hzero | ⟨height, hone⟩
  · rw [hzero, List.take_zero, List.append_nil] at h
    exact .inl ⟨hzero, h.symm⟩
  · rw [height, show rest.length = 7 by omega] at htake
    exact .inr ⟨height, hone, htake.symm⟩

theorem Overlaps.length_lt (htable : table.length ≤ 63) (hne : other ≠ table)
    (h : Overlaps table other) : table.length < other.length := by
  rcases h with ⟨hfull, hprefix⟩ | ⟨-, rfl⟩
  · refine Nat.lt_of_le_of_ne (hfull ▸ htable) fun heq => hne ?_
    have htoo : table.toList <+: (indexName table).toList :=
      toList_indexName table ▸ List.prefix_append _ _
    have hlength : other.toList.length = table.toList.length := by
      rw [String.length_toList, String.length_toList, heq]
    have hpre := List.prefix_of_prefix_length_le hprefix htoo (Nat.le_of_eq hlength)
    exact String.toList_inj.mp (hpre.eq_of_length hlength)
  · rw [String.length_append]
    exact Nat.lt_add_of_pos_right (by decide)

/-- The names of the indexes on two tables are stored alike if the shorter one overlaps the longer
one. -/
theorem stored_indexNames_eq_iff (htable : isIdentifier table = true)
    (hother : isIdentifier other = true) (hne : other ≠ table)
    (hle : table.length ≤ other.length) :
    stored (indexName table) = stored (indexName other) ↔ Overlaps table other := by
  have hshort := length_le_of_isIdentifier hother
  rw [stored_eq_iff (parts_indexName htable) (parts_indexName hother), take_indexName htable,
    take_indexName hother]
  simp only [Overlaps, ← String.length_toList, toList_indexName] at hle ⊢
  constructor
  · intro heq
    obtain ⟨rest, hrest⟩ : table.toList <+: other.toList :=
      List.prefix_of_prefix_length_le (heq ▸ List.prefix_append _ _) (List.prefix_append _ _) hle
    have hlength : other.toList.length = table.toList.length + rest.length := by
      rw [← hrest, List.length_append]
    have hrestne : rest ≠ [] := fun hnil =>
      hne (String.toList_inj.mp (by rw [← hrest, hnil, List.append_nil]))
    rw [← hrest, List.append_assoc, List.append_cancel_left_eq, hrest] at heq
    rcases take_indexSuffix_eq_append hrestne (by omega) heq with ⟨hfull, hcut⟩ | ⟨hlong, -, hcut⟩
    · refine .inl ⟨by omega, ?_⟩
      rw [← hrest, hcut, List.prefix_append_right_inj]
      exact List.take_prefix _ _
    · refine .inr ⟨by omega, String.toList_inj.mp ?_⟩
      rw [← hrest, hcut, String.toList_append]
      rfl
  · rintro (⟨hfull, hprefix⟩ | ⟨hlong, rfl⟩)
    · rw [hfull, Nat.sub_self, List.take_zero, List.append_nil, List.prefix_iff_eq_take.mp hprefix,
        hfull, List.take_append, List.take_of_length_le (Nat.le_trans hle hshort)]
    · rw [String.toList_append, List.append_assoc, List.append_cancel_left_eq, List.length_append,
        hlong]
      rfl

/-! ## 4. Making the index -/

inductive Relation where
  | table
  /-- An index on the table that is stored by a given name. -/
  | index (table : List UInt8)
  deriving DecidableEq

/-- A link to a database, whose relations `relation?` looks up: it can be reached, and a table and
its index are made where their names, as they are stored, stand for nothing yet. -/
structure MakesRelations {L : Type} [Link L] (relation? : L → List UInt8 → Option Relation)
    (table : String) : Prop where
  connect : ∀ link target, ∃ after,
    Link.connect link target = (.connected, after) ∧ relation? after = relation? link
  createTable : ∀ link, ∃ rows after,
    Link.execute link table .createTable = (.rows rows, after) ∧
      relation? after (stored table) = (relation? link (stored table)).or (some .table) ∧
      (stored (indexName table) ≠ stored table →
        relation? after (stored (indexName table)) = relation? link (stored (indexName table)))
  createIndex : ∀ link, relation? link (stored table) = some .table → ∃ rows after,
    Link.execute link table .createIndex = (.rows rows, after) ∧
      relation? after (stored (indexName table)) =
        (relation? link (stored (indexName table))).or (some (.index (stored table)))

/-- Where neither a table nor its index is there yet, the table is made and said to be complete.  It
has its index if the name of that is not stored as its own. -/
theorem ensureTable_of_missing {L : Type} [Link L] {relation? : L → List UInt8 → Option Relation}
    {repository : Repository L} (hmakes : MakesRelations relation? repository.table)
    (hopen : repository.backend.isClosed repository.pool = false)
    (hmissing : relation? repository.backend.link (stored repository.table) = none)
    (hfree : relation? repository.backend.link (stored (indexName repository.table)) = none) :
    ∃ after, repository.ensureTable = (.ok (), after) ∧
      relation? after.backend.link (stored (indexName repository.table)) =
        if stored (indexName repository.table) = stored repository.table then some .table
        else some (.index (stored repository.table)) := by
  let name := stored repository.table
  let index := stored (indexName repository.table)
  -- The first statement makes the table, whose name can be the one of the index.
  have hfirst : ∀ link, relation? link = relation? repository.backend.link → ∃ rows after,
      Link.execute link repository.table .createTable = (.rows rows, after) ∧
        relation? after name = some .table ∧
        relation? after index = if index = name then some .table else none := by
    intro link hlink
    obtain ⟨rows, after, hexecute, hthis, hothers⟩ := hmakes.createTable link
    rw [hlink, hmissing, Option.none_or] at hthis
    refine ⟨rows, after, hexecute, hthis, ?_⟩
    split
    · rename_i heq
      rw [heq]
      exact hthis
    · rename_i hne
      exact (hothers hne).trans (hlink ▸ hfree)
  obtain ⟨_, made, hmade, -, hname, hisOpen, htable, hindex⟩ :=
    Repository.ask_executed hmakes.connect hopen
      (fun _ link => relation? link name = some .table ∧
        relation? link index = if index = name then some .table else none) hfirst fun _ => .ok ()
  -- The second one makes the index where its name is still free.
  have hsecond : ∀ link, relation? link = relation? made.backend.link → ∃ rows after,
      Link.execute link made.table .createIndex = (.rows rows, after) ∧
        relation? after index = if index = name then some .table else some (.index name) := by
    intro link hlink
    rw [← hlink] at htable hindex
    obtain ⟨rows, after, hexecute, hthis⟩ := hmakes.createIndex link htable
    refine ⟨rows, after, hname ▸ hexecute, hthis.trans ?_⟩
    show (relation? link index).or (some (.index name)) = _
    rw [hindex]
    split <;> rfl
  obtain ⟨_, after, hafter, -, -, -, hresult⟩ :=
    Repository.ask_executed hmakes.connect hisOpen
      (fun _ link => relation? link index =
        if index = name then some .table else some (.index name)) hsecond fun _ => .ok ()
  refine ⟨after, ?_, hresult⟩
  rw [Repository.ensureTable, hmade]
  exact hafter

/-- What becomes of the name of the index on an accepted table.  It is accepted itself if the table
has 52 characters at most.  It is stored as the name of the table, which then goes without an index,
if that has 63 characters, and as the name of the index on another accepted table if one of the two
overlaps the other one. -/
theorem index_name_extent (h : isIdentifier table = true) :
    (isIdentifier (indexName table) = true ↔ table.length ≤ 52) ∧
      (stored (indexName table) = stored table ↔ table.length = 63) ∧
      (∀ other, isIdentifier other = true → other ≠ table →
        (stored (indexName table) = stored (indexName other) ↔
          Overlaps table other ∨ Overlaps other table)) ∧
      ∀ {L : Type} [Link L] (relation? : L → List UInt8 → Option Relation)
        (repository : Repository L), repository.table = table → MakesRelations relation? table →
        repository.backend.isClosed repository.pool = false →
        relation? repository.backend.link (stored table) = none →
        relation? repository.backend.link (stored (indexName table)) = none →
        ∃ after, repository.ensureTable = (.ok (), after) ∧
          (relation? after.backend.link (stored (indexName table)) = some (.index (stored table)) ↔
            table.length ≠ 63) := by
  have hfold := stored_indexName_eq_iff h
  have htable := (isIdentifier_iff table).mp h
  refine ⟨isIdentifier_indexName_iff h, hfold, fun other hother hne => ?_,
    fun relation? repository hname hmakes hopen hmissing hfree => ?_⟩
  · have hlong := ((isIdentifier_iff other).mp hother).short
    rcases Nat.le_total table.length other.length with hle | hle
    · rw [stored_indexNames_eq_iff h hother hne hle, or_iff_left]
      exact fun hback => absurd (hback.length_lt hlong hne.symm) (Nat.not_lt.mpr hle)
    · rw [eq_comm, stored_indexNames_eq_iff hother h hne.symm hle, or_iff_right]
      exact fun hback => absurd (hback.length_lt htable.short hne) (Nat.not_lt.mpr hle)
  · subst hname
    obtain ⟨after, hmade, hrelation⟩ := ensureTable_of_missing hmakes hopen hmissing hfree
    refine ⟨after, hmade, ?_⟩
    rw [hrelation, Ne, ← hfold]
    split
    · rename_i heq
      simp [heq]
    · rename_i hne
      simp [hne]

/-- A database that keeps nothing but its relations. -/
structure Catalog where
  relations : List (List UInt8 × Relation) := []

namespace Catalog

def relation? (catalog : Catalog) (name : List UInt8) : Option Relation :=
  catalog.relations.lookup name

def add (catalog : Catalog) (name : List UInt8) (relation : Relation) : Catalog :=
  if (catalog.relation? name).isSome then catalog
  else { relations := (name, relation) :: catalog.relations }

theorem relation?_add (catalog : Catalog) (name other : List UInt8) (relation : Relation) :
    (catalog.add name relation).relation? other =
      if other = name then (catalog.relation? name).or (some relation)
      else catalog.relation? other := by
  unfold add
  split
  · rename_i hsome
    obtain ⟨found, hfound⟩ := Option.isSome_iff_exists.mp hsome
    split
    · rename_i heq
      rw [heq, hfound, Option.some_or]
    · rfl
  · rename_i hnone
    rw [Option.not_isSome_iff_eq_none] at hnone
    rw [hnone, Option.none_or, relation?, List.lookup_cons]
    by_cases heq : other = name
    · rw [if_pos heq, beq_iff_eq.mpr heq]
    · rw [if_neg heq, beq_eq_false_iff_ne.mpr heq]
      rfl

instance : Link Catalog where
  connect catalog _ := (.connected, catalog)
  execute catalog table statement :=
    match statement with
    | .createTable => (TablePeer.tagged "CREATE TABLE", catalog.add (stored table) .table)
    | .createIndex =>
      (TablePeer.tagged "CREATE INDEX",
        catalog.add (stored (indexName table)) (.index (stored table)))
    | _ => (TablePeer.tagged "OK 0", catalog)

theorem makesRelations (table : String) : MakesRelations relation? table where
  connect catalog _ := ⟨catalog, rfl, rfl⟩
  createTable catalog := by
    refine ⟨_, _, rfl, ?_, fun hne => ?_⟩
    · rw [relation?_add, if_pos rfl]
    · rw [relation?_add, if_neg hne]
  createIndex catalog _ := ⟨_, _, rfl, by rw [relation?_add, if_pos rfl]⟩

end Catalog

def letters (n : Nat) : String := String.ofList (List.replicate n 'a')

/-- In a database with nothing in it a table is made without its index, and nobody is told. -/
theorem long_table_without_index :
    let repository : Repository Catalog := ⟨⟨{}, [⟨default, false, false⟩]⟩, 0, letters 63⟩
    isIdentifier (indexName (letters 63)) = false ∧
      stored (indexName (letters 55)) = stored (indexName (letters 55 ++ "_status")) ∧
      ∃ after, repository.ensureTable = (.ok (), after) ∧
        after.backend.link.relation? (stored (indexName (letters 63))) ≠
          some (.index (stored (letters 63))) := by
  intro repository
  have hlong : isIdentifier (letters 63) = true := by decide +kernel
  have hshort : isIdentifier (letters 55) = true := by decide +kernel
  have hshort' : isIdentifier (letters 55 ++ "_status") = true := by decide +kernel
  obtain ⟨hvalid, -, -, hmade⟩ := index_name_extent hlong
  refine ⟨Bool.eq_false_iff.mpr fun hindex => absurd (hvalid.mp hindex) (by decide +kernel), ?_, ?_⟩
  · have hoverlaps : Overlaps (letters 55) (letters 55 ++ "_status") :=
      .inr ⟨by decide +kernel, rfl⟩
    exact ((index_name_extent hshort).2.2.1 _ hshort' (by decide +kernel)).mpr (.inl hoverlaps)
  · obtain ⟨after, hafter, hindex⟩ :=
      hmade Catalog.relation? repository rfl (Catalog.makesRelations _) rfl rfl rfl
    exact ⟨after, hafter, fun hthere => hindex.mp hthere (by decide +kernel)⟩

/-- There is an accepted table of 63 letters: the name of its index is no identifier, and is stored
as its own name. -/
theorem index_names_fold :
    ¬ ∀ table, isIdentifier table = true →
      isIdentifier (indexName table) = true ∧ stored (indexName table) ≠ stored table ∧
        ∀ other, isIdentifier other = true → other ≠ table →
          stored (indexName table) ≠ stored (indexName other) := by
  intro h
  have hlong : isIdentifier (letters 63) = true := by decide +kernel
  exact (h _ hlong).2.1 ((stored_indexName_eq_iff hlong).mpr (by decide +kernel))

end JobDesk.Postgres
