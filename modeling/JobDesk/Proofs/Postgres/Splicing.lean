import JobDesk.Proofs.Postgres.Tokens
import JobDesk.Proofs.Text.Utf8
import Mathlib.Data.List.Forall2

/-!
# Splicing — a table name in the text of a statement

The names that are accepted are the plain ones, by their characters.  A text is read by its words,
whatever blanks stand between them, and a statement on an accepted table is read as its template: no
token of it comes from anywhere but the template, and no character of it could quote or hide one.
-/

namespace JobDesk.Postgres

/-! ## 1. Plain names -/

def IsLetter (c : Char) : Prop := ('a' ≤ c ∧ c ≤ 'z') ∨ ('A' ≤ c ∧ c ≤ 'Z')

def IsDigit (c : Char) : Prop := '0' ≤ c ∧ c ≤ '9'

/-- A name of 1 to 63 ASCII letters, digits and underscores that starts with no digit. -/
structure IsPlainName (name : String) : Prop where
  nonempty : 1 ≤ name.length
  short : name.length ≤ 63
  start : ∀ c ∈ name.toList.head?, IsLetter c ∨ c = '_'
  parts : ∀ c ∈ name.toList, IsLetter c ∨ IsDigit c ∨ c = '_'

theorem isAlpha_iff (c : Char) : c.isAlpha = true ↔ IsLetter c := by
  delta Char.isAlpha Char.isUpper Char.isLower IsLetter
  simp only [Char.le_def, Bool.or_eq_true, Bool.and_eq_true, decide_eq_true_eq, ge_iff_le]
  exact or_comm

theorem isDigit_iff (c : Char) : c.isDigit = true ↔ IsDigit c := by
  simp only [Char.isDigit, IsDigit, Char.le_def, Bool.and_eq_true, decide_eq_true_eq, ge_iff_le]

theorem isIdentifierStart_iff (c : Char) : isIdentifierStart c = true ↔ IsLetter c ∨ c = '_' := by
  rw [isIdentifierStart, Bool.or_eq_true, isAlpha_iff, beq_iff_eq]

theorem isIdentifierPart_iff (c : Char) :
    isIdentifierPart c = true ↔ IsLetter c ∨ IsDigit c ∨ c = '_' := by
  rw [isIdentifierPart, Char.isAlphanum, Bool.or_eq_true, Bool.or_eq_true, isAlpha_iff, isDigit_iff,
    beq_iff_eq, or_assoc]

theorem toNat_lt_of_isIdentifierPart {c : Char} (h : isIdentifierPart c = true) :
    c.toNat < 0x80 := by
  have hle : ∀ last : Char, c ≤ last → c.toNat ≤ last.toNat := fun last h => h
  rcases (isIdentifierPart_iff c).mp h with (⟨-, hlast⟩ | ⟨-, hlast⟩) | ⟨-, hlast⟩ | hunder
  · exact Nat.lt_of_le_of_lt (hle 'z' hlast) (by decide)
  · exact Nat.lt_of_le_of_lt (hle 'Z' hlast) (by decide)
  · exact Nat.lt_of_le_of_lt (hle '9' hlast) (by decide)
  · rw [hunder]
    decide

theorem utf8ByteSize_eq_length {name : String} (h : ∀ c ∈ name.toList, isIdentifierPart c = true) :
    name.utf8ByteSize = name.length := by
  have hbytes := toList_ofText_ascii fun c hc => toNat_lt_of_isIdentifierPart (h c hc)
  have hlength := congrArg List.length hbytes
  rw [List.length_map, String.length_toList, Array.length_toList] at hlength
  exact hlength

theorem isIdentifier_iff (name : String) : isIdentifier name = true ↔ IsPlainName name := by
  constructor
  · intro h
    have hparts : ∀ c ∈ name.toList, isIdentifierPart c = true :=
      List.all_eq_true.mp (word_of_isIdentifier h).2
    -- All characters are ASCII, so that bytes and characters are counted alike.
    have hsize := utf8ByteSize_eq_length hparts
    unfold isIdentifier at h
    split at h
    · cases h
    rename_i c rest heq
    simp only [Bool.and_eq_true] at h
    obtain ⟨⟨hstart, hshort⟩, -⟩ := h
    refine ⟨?_, hsize ▸ of_decide_eq_true hshort, fun d hd => ?_,
      fun d hd => (isIdentifierPart_iff d).mp (hparts d hd)⟩
    · rw [← String.length_toList, heq, List.length_cons]
      omega
    · rw [heq, List.head?_cons, Option.mem_some_iff] at hd
      exact (isIdentifierStart_iff d).mp (hd ▸ hstart)
  · rintro ⟨hnonempty, hshort, hstart, hparts⟩
    have hparts : ∀ c ∈ name.toList, isIdentifierPart c = true :=
      fun c hc => (isIdentifierPart_iff c).mpr (hparts c hc)
    have hsize := utf8ByteSize_eq_length hparts
    unfold isIdentifier
    split
    · rename_i heq
      rw [← String.length_toList, heq] at hnonempty
      exact absurd hnonempty (by decide)
    · rename_i c rest heq
      rw [heq] at hstart hparts
      have hfirst := (isIdentifierStart_iff c).mpr (hstart c rfl)
      have hrest : rest.all isIdentifierPart = true :=
        List.all_eq_true.mpr fun d hd => hparts d (List.mem_cons_of_mem c hd)
      rw [hfirst, hrest, Bool.true_and, Bool.and_true, decide_eq_true_eq, hsize]
      exact hshort

example : isIdentifier "jobs é" = false := by decide

/-! ## 2. Words -/

def words (text : String) : List (List Char) :=
  (text.toList.splitOnP Char.isWhitespace).filter (!·.isEmpty)

theorem not_isWhitespace_of_isIdentifierPart {c : Char} (h : isIdentifierPart c = true) :
    c.isWhitespace = false := by
  refine Bool.eq_false_iff.mpr fun hblank => ?_
  simp only [Char.isWhitespace, Bool.or_eq_true, decide_eq_true_eq] at hblank
  rcases hblank with ((rfl | rfl) | rfl) | rfl <;> revert h <;> decide

theorem tokensFrom_splitOnP (word text : List Char) {first : List Char} {rest : List (List Char)}
    (h : text.splitOnP Char.isWhitespace = first :: rest) :
    tokensFrom word text = tokensFrom word first ++ rest.flatMap (tokensFrom []) := by
  induction text generalizing word first rest with
  | nil =>
    obtain ⟨rfl, rfl⟩ : [] = first ∧ [] = rest := by simpa using h
    exact (List.append_nil _).symm
  | cons c text ih =>
    obtain ⟨next, others, hsplit⟩ := List.exists_cons_of_ne_nil
      (List.splitOnP_ne_nil Char.isWhitespace text)
    rw [List.splitOnP_cons_eq_if_modifyHead, hsplit] at h
    cases hpart : isIdentifierPart c with
    | true =>
      rw [if_neg (by simp [not_isWhitespace_of_isIdentifierPart hpart])] at h
      obtain ⟨rfl, rfl⟩ := List.cons.inj h
      rw [tokensFrom, tokensFrom, if_pos hpart, if_pos hpart, ih _ hsplit]
    | false =>
      cases hblank : c.isWhitespace with
      | true =>
        rw [if_pos hblank] at h
        obtain ⟨rfl, rfl⟩ := List.cons.inj h
        simp only [tokensFrom, hpart, hblank, Bool.false_eq_true, if_false, if_true]
        rw [ih _ hsplit, List.flatMap_cons]
      | false =>
        rw [if_neg (by simp [hblank])] at h
        obtain ⟨rfl, rfl⟩ := List.cons.inj h
        simp only [tokensFrom, hpart, hblank, Bool.false_eq_true, if_false]
        rw [ih _ hsplit, List.append_assoc, List.cons_append]

theorem tokens_eq_flatMap_words (text : String) :
    tokens text = (words text).flatMap (tokensFrom []) := by
  obtain ⟨first, rest, hsplit⟩ := List.exists_cons_of_ne_nil
    (List.splitOnP_ne_nil Char.isWhitespace text.toList)
  have hempty : ∀ pieces : List (List Char), (pieces.filter (!·.isEmpty)).flatMap (tokensFrom []) =
      pieces.flatMap (tokensFrom []) := by
    intro pieces
    induction pieces with
    | nil => rfl
    | cons piece pieces ih =>
      cases piece with
      | nil => exact ih
      | cons c piece => exact congrArg (tokensFrom [] (c :: piece) ++ ·) ih
  rw [tokens, tokensFrom_splitOnP [] _ hsplit, words, hempty, hsplit, List.flatMap_cons]

/-- Every character of a text that is no blank stands in a token of it. -/
theorem exists_token_of_mem {c : Char} (hblank : c.isWhitespace = false) (word : List Char)
    {text : List Char} (h : c ∈ word ++ text) :
    ∃ token ∈ tokensFrom word text, c ∈ token.toList := by
  have hflush : ∀ {word : List Char}, c ∈ word → ∃ token ∈ flush word, c ∈ token.toList := by
    intro word hc
    rw [flush, List.isEmpty_eq_false_iff.mpr (List.ne_nil_of_mem hc)]
    exact ⟨_, List.mem_singleton.mpr rfl, by rwa [String.toList_ofList]⟩
  induction text generalizing word with
  | nil => exact hflush (by rwa [List.append_nil] at h)
  | cons d text ih =>
    rw [tokensFrom]
    split
    · exact ih _ (by rwa [List.append_assoc])
    rcases List.mem_append.mp h with hword | hrest
    · obtain ⟨token, htoken, hc⟩ := hflush hword
      split <;> exact ⟨token, List.mem_append_left _ htoken, hc⟩
    rcases List.mem_cons.mp hrest with rfl | htext
    · rw [if_neg (by simp [hblank])]
      exact ⟨String.singleton c, by simp, by simp⟩
    · obtain ⟨token, htoken, hc⟩ := ih [] htext
      split
      · exact ⟨token, List.mem_append_right _ htoken, hc⟩
      · exact ⟨token, List.mem_append_right _ (List.mem_cons_of_mem _ htoken), hc⟩

/-! ## 3. Statements -/

/-- The characters that stand by themselves in statements.  None of them opens a quotation or a
comment, or ends a statement. -/
def marks : List Char := ['(', ')', ',', '=', '$']

def isHarmless (token : String) : Bool :=
  token.toList.all fun c => isIdentifierPart c || marks.contains c

variable {table : String}

theorem all_isHarmless_template (h : isIdentifier table = true) (statement : Statement) :
    (statement.template table (indexName table)).all isHarmless = true := by
  have hparts := (word_of_isIdentifier h).2
  have htable : isHarmless table = true :=
    List.all_eq_true.mpr fun c hc => by rw [List.all_eq_true.mp hparts c hc, Bool.true_or]
  have hindex : isHarmless (indexName table) = true := by
    rw [isHarmless, indexName, String.toList_append, List.all_append, Bool.and_eq_true]
    exact ⟨htable, by decide⟩
  cases statement <;>
    simp only [Statement.template, List.all_cons, List.all_nil, htable, hindex, Bool.true_and,
      Bool.and_true] <;> decide +kernel

/-- A text is read as a statement on a table and as nothing else. -/
structure ReadsAs (text : String) (statement : Statement) (table : String) : Prop where
  tokens : tokens text = statement.template table (indexName table)
  harmless : ∀ c ∈ text.toList,
    c.isWhitespace = true ∨ isIdentifierPart c = true ∨ c ∈ marks

/-- A text with the words of a statement on an accepted table is read as that statement. -/
theorem readsAs_of_words (h : isIdentifier table = true) {statement : Statement} {text : String}
    (hwords : words text = words (statement.sql table)) : ReadsAs text statement table := by
  have htokens : tokens text = statement.template table (indexName table) := by
    rw [tokens_eq_flatMap_words, hwords, ← tokens_eq_flatMap_words, tokens_sql h]
  refine ⟨htokens, fun c hc => ?_⟩
  cases hblank : c.isWhitespace with
  | true => exact .inl rfl
  | false =>
    obtain ⟨token, htoken, hmem⟩ := exists_token_of_mem hblank [] hc
    have hall := all_isHarmless_template h statement
    rw [← htokens] at hall
    have hharmless := List.all_eq_true.mp (List.all_eq_true.mp hall token htoken) c hmem
    rw [Bool.or_eq_true, List.contains_iff_mem] at hharmless
    exact .inr hharmless

/-- Two tokens that are the same, or that name two tables or the indexes on them. -/
def Corresponds (table other : String) (token token' : String) : Prop :=
  token = token' ∨ token = table ∧ token' = other ∨
    token = indexName table ∧ token' = indexName other

theorem template_corresponds (table other : String) (statement : Statement) :
    List.Forall₂ (Corresponds table other) (statement.template table (indexName table))
      (statement.template other (indexName other)) := by
  cases statement <;> simp [Statement.template, Corresponds]

/-- The names that are accepted are the plain ones, and with each of them in place, a statement in
whatever layout is read as its template with that name as one token of it.  Nothing changes in it
from one accepted name to another but that token. -/
theorem accepted_table_is_one_token (table : String) :
    (isIdentifier table = true ↔ IsPlainName table) ∧
      (isIdentifier table = true →
        ∀ (statement : Statement) (text : String), words text = words (statement.sql table) →
          ReadsAs text statement table ∧
          ∀ other text', isIdentifier other = true → words text' = words (statement.sql other) →
            List.Forall₂ (Corresponds table other) (tokens text) (tokens text')) := by
  refine ⟨isIdentifier_iff table, fun h statement text hwords => ?_⟩
  have hreads := readsAs_of_words h hwords
  refine ⟨hreads, fun other text' hother hwords' => ?_⟩
  rw [hreads.tokens, (readsAs_of_words hother hwords').tokens]
  exact template_corresponds table other statement

/-- A name is one token even where it reads like a statement of its own. -/
theorem drop_table_is_one_token :
    IsPlainName "DROP_TABLE_jobs" ∧
      tokens (Statement.sql "DROP_TABLE_jobs" (.setStatus 7 1)) =
        ["UPDATE", "DROP_TABLE_jobs", "SET", "status", "=", "$", "1", "WHERE", "id", "=", "$",
          "2"] ∧
      List.Forall₂ (Corresponds "DROP_TABLE_jobs" "_")
        (tokens (Statement.sql "DROP_TABLE_jobs" .createIndex))
        (tokens (Statement.sql "_" .createIndex)) := by
  have hname : isIdentifier "DROP_TABLE_jobs" = true := by decide
  obtain ⟨hiff, hreads⟩ := accepted_table_is_one_token "DROP_TABLE_jobs"
  exact ⟨hiff.mp hname, (hreads hname (.setStatus 7 1) _ rfl).1.tokens,
    (hreads hname .createIndex _ rfl).2 "_" _ (by decide) rfl⟩

example : words "
      SELECT
        1
    " = words (Statement.sql "jobs" .verify) := by
  decide +kernel

end JobDesk.Postgres
