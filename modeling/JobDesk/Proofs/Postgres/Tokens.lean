import JobDesk.Postgres.Statement
import JobDesk.Postgres.TableName

/-!
# Tokens — what a database reads of the text of a statement

A run of ASCII letters, digits and underscores is one token, and every other character that is not
blank is one by itself.  A plain identifier between blanks is one token, so that a statement on a
table is read as its template with the name of the table in place.
-/

namespace JobDesk.Postgres

/-! ## 1. Tokens -/

def flush (word : List Char) : List String :=
  if word.isEmpty then [] else [String.ofList word]

def tokensFrom (word : List Char) : List Char → List String
  | [] => flush word
  | c :: text =>
    if isIdentifierPart c then tokensFrom (word ++ [c]) text
    else if c.isWhitespace then flush word ++ tokensFrom [] text
    else flush word ++ String.singleton c :: tokensFrom [] text

def tokens (text : String) : List String := tokensFrom [] text.toList

theorem tokensFrom_blank (word text rest : List Char) :
    tokensFrom word (text ++ ' ' :: rest) = tokensFrom word text ++ tokensFrom [] rest := by
  induction text generalizing word with
  | nil => rfl
  | cons c text ih =>
    rw [List.cons_append, tokensFrom, tokensFrom]
    split
    · exact ih (word ++ [c])
    split
    · rw [ih, List.append_assoc]
    · rw [ih, List.append_assoc, List.cons_append]

theorem tokensFrom_word {text : List Char} (h : text.all isIdentifierPart = true)
    (word : List Char) : tokensFrom word text = flush (word ++ text) := by
  induction text generalizing word with
  | nil => rw [tokensFrom, List.append_nil]
  | cons c text ih =>
    rw [List.all_cons, Bool.and_eq_true] at h
    rw [tokensFrom, if_pos h.1, ih h.2, List.append_assoc, List.singleton_append]

theorem tokens_word {name : String} (hne : name ≠ "")
    (hword : name.toList.all isIdentifierPart = true) :
    tokens name = [name] := by
  have hsome : name.toList.isEmpty = false :=
    List.isEmpty_eq_false_iff.mpr fun hnil => hne (String.toList_eq_nil_iff.mp hnil)
  rw [tokens, tokensFrom_word hword, List.nil_append, flush, hsome]
  simp

/-- A blank separates what stands before it from what stands behind it. -/
theorem tokens_append_of_getLast {before : String} (after : String)
    (hbefore : before.toList.getLast? = some ' ') :
    tokens (before ++ after) = tokens before ++ tokens after := by
  obtain ⟨pre, hpre⟩ := List.getLast?_eq_some_iff.mp hbefore
  have htokens : tokens before = tokensFrom [] pre := by
    rw [tokens, hpre, tokensFrom_blank]
    exact List.append_nil _
  rw [htokens, tokens, String.toList_append, hpre, List.append_assoc, List.singleton_append,
    tokensFrom_blank]
  rfl

theorem tokens_append_of_head {after : String} (before : String)
    (hafter : after.toList.head? = some ' ') :
    tokens (before ++ after) = tokens before ++ tokens after := by
  obtain ⟨post, hpost⟩ := List.head?_eq_some_iff.mp hafter
  have htokens : tokens after = tokensFrom [] post := by
    rw [tokens, hpost]
    rfl
  rw [htokens, tokens, String.toList_append, hpost, tokensFrom_blank]
  rfl

/-! ## 2. Names -/

variable {table : String}

/-- A plain identifier is made of the characters of runs, and of one at least. -/
theorem word_of_isIdentifier (h : isIdentifier table = true) :
    table ≠ "" ∧ table.toList.all isIdentifierPart = true := by
  unfold isIdentifier at h
  split at h
  · cases h
  · rename_i c rest heq
    simp only [Bool.and_eq_true] at h
    refine ⟨fun hempty => ?_, ?_⟩
    · rw [hempty] at heq
      cases heq
    · have hstart : isIdentifierPart c = true := by
        have hstart := h.1.1
        simp only [isIdentifierStart, Bool.or_eq_true] at hstart
        simp only [isIdentifierPart, Char.isAlphanum, Bool.or_eq_true]
        rcases hstart with halpha | hunder
        · exact .inl (.inl halpha)
        · exact .inr hunder
      rw [heq, List.all_cons, hstart, h.2]
      rfl

theorem tokens_table (h : isIdentifier table = true) : tokens table = [table] :=
  tokens_word (word_of_isIdentifier h).1 (word_of_isIdentifier h).2

theorem tokens_indexName (h : isIdentifier table = true) :
    tokens (indexName table) = [indexName table] := by
  obtain ⟨hne, hword⟩ := word_of_isIdentifier h
  refine tokens_word (fun hempty => ?_) ?_
  · exact hne (String.append_eq_empty_iff.mp hempty).1
  · rw [indexName, String.toList_append, List.all_append, hword]
    decide

/-! ## 3. Statements -/

def Statement.template (table index : String) : Statement → List String
  | verify => ["SELECT", "1"]
  | createTable =>
    ["CREATE", "TABLE", "IF", "NOT", "EXISTS", table, "(",
      "id", "BIGSERIAL", "PRIMARY", "KEY", ",",
      "status", "SMALLINT", "NOT", "NULL", "DEFAULT", "0", ",",
      "search_config", "BYTEA", "NOT", "NULL", ",",
      "creation_time", "TIMESTAMPTZ", "NOT", "NULL", "DEFAULT", "NOW", "(", ")", ")"]
  | createIndex =>
    ["CREATE", "INDEX", "IF", "NOT", "EXISTS", index, "ON", table, "(", "status", ")"]
  | insert _ =>
    ["INSERT", "INTO", table, "(", "search_config", ")", "VALUES", "(", "$", "1", ")",
      "RETURNING", "id"]
  | setStatus _ _ =>
    ["UPDATE", table, "SET", "status", "=", "$", "1", "WHERE", "id", "=", "$", "2"]
  | setStatusIf _ _ _ =>
    ["UPDATE", table, "SET", "status", "=", "$", "1", "WHERE", "id", "=", "$", "2",
      "AND", "status", "=", "$", "3"]
  | fetchStatus _ => ["SELECT", "status", "FROM", table, "WHERE", "id", "=", "$", "1"]
  | fetchJob _ =>
    ["SELECT", "id", ",", "status", ",", "search_config", ",", "creation_time", "FROM", table,
      "WHERE", "id", "=", "$", "1"]

theorem tokens_splice {name before : String} (after : String) (hname : tokens name = [name])
    (hbefore : before.toList.getLast? = some ' ') (hafter : after.toList.head? = some ' ') :
    tokens (before ++ name ++ after) = tokens before ++ name :: tokens after := by
  rw [tokens_append_of_head _ hafter, tokens_append_of_getLast _ hbefore, hname, List.append_assoc,
    List.singleton_append]

/-- A statement on a table whose name is a plain identifier is read as its template. -/
theorem tokens_sql (h : isIdentifier table = true) (statement : Statement) :
    tokens (statement.sql table) = statement.template table (indexName table) := by
  have htable := tokens_table h
  cases statement with
  | verify =>
    show tokens "SELECT 1" = ["SELECT", "1"]
    rfl
  | createTable =>
    let before := "
            CREATE TABLE IF NOT EXISTS "
    let first := " (
                id BIGSERIAL PRIMARY KEY,
                status SMALLINT NOT NULL DEFAULT "
    let last := ",
                search_config BYTEA NOT NULL,
                creation_time TIMESTAMPTZ NOT NULL DEFAULT NOW()
            )
            "
    have hsql : Statement.sql table .createTable = before ++ table ++ (first ++ "0" ++ last) := by
      rw [← String.append_assoc, ← String.append_assoc]
      rfl
    have hbefore : tokens before = ["CREATE", "TABLE", "IF", "NOT", "EXISTS"] := by decide +kernel
    have hcolumns : tokens (first ++ "0" ++ last) = ["(", "id", "BIGSERIAL", "PRIMARY", "KEY", ",",
        "status", "SMALLINT", "NOT", "NULL", "DEFAULT", "0", ",",
        "search_config", "BYTEA", "NOT", "NULL", ",",
        "creation_time", "TIMESTAMPTZ", "NOT", "NULL", "DEFAULT", "NOW", "(", ")", ")"] := by
      decide +kernel
    rw [hsql, tokens_splice _ htable (by decide +kernel) (by decide +kernel), hbefore, hcolumns]
    rfl
  | createIndex =>
    show tokens ("CREATE INDEX IF NOT EXISTS " ++ indexName table ++ " ON " ++ table
      ++ " (status)") = _
    rw [String.append_assoc, String.append_assoc,
      tokens_splice _ (tokens_indexName h) (by decide) (by simp), ← String.append_assoc,
      tokens_splice _ htable (by decide) (by decide)]
    rfl
  | insert payload =>
    show tokens ("INSERT INTO " ++ table ++ " (search_config) VALUES ($1) RETURNING id") = _
    rw [tokens_splice _ htable (by decide) (by decide)]
    rfl
  | setStatus id status =>
    show tokens ("UPDATE " ++ table ++ " SET status = $1 WHERE id = $2") = _
    rw [tokens_splice _ htable (by decide) (by decide)]
    rfl
  | setStatusIf id expected new =>
    show tokens ("UPDATE " ++ table ++ " SET status = $1 WHERE id = $2 AND status = $3") = _
    rw [tokens_splice _ htable (by decide) (by decide)]
    rfl
  | fetchStatus id =>
    show tokens ("SELECT status FROM " ++ table ++ " WHERE id = $1") = _
    rw [tokens_splice _ htable (by decide) (by decide)]
    rfl
  | fetchJob id =>
    show tokens ("SELECT id, status, search_config, creation_time FROM " ++ table
      ++ " WHERE id = $1") = _
    rw [tokens_splice _ htable (by decide) (by decide)]
    rfl

end JobDesk.Postgres
