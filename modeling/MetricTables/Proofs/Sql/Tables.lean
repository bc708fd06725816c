import MetricTables.Column
import MetricTables.Proofs.Sql.Readers
import MetricTables.Sql.Statement.Reader

/-!
# Statements on tables

The statements by which tables are created and columns are added, as tokens, and what the
grammar reads from them. A table has quoted names, types of which the spelling is known,
and at most one key.

## Main statements

* `readAll_createTokens` — the creation of a table is read as it is meant.
* `readAll_emptyKey` — a key of no columns is refused.
* `readAll_addColumnTokens` — the addition of a column is read as it is meant.
-/

namespace MetricTables.Sql.Grammar

open Reader

def columnTokens (c : Column) : List Token := .quoted c.name :: TypeName.typeTokens c.type

def columnDefinitionOf (c : Column) : ColumnDefinition :=
  ⟨.quoted c.name, c.type.spelling, TypeName.wordsOf (TypeName.typeTokens c.type)⟩

/-- No property of a column stands where a column ends. -/
theorem columnProperty_of_closes {ts : List Token} (h : Closes ts) : columnProperty ts = none := by
  simp [columnProperty, reference, check, generated, h.keyword]

theorem columnDefinition_columnTokens {c : Column} (hc : ∀ s, c.type ≠ .other s)
    {rest : List Token} (h : Closes rest) :
    columnDefinition (columnTokens c ++ rest) = some (columnDefinitionOf c, rest) := by
  have htype : withTokens TypeName.read (TypeName.typeTokens c.type ++ rest) =
      some ((c.type.spelling, TypeName.typeTokens c.type), rest) := by
    simp [withTokens, TypeName.read_typeTokens hc h]
  have hproperty : (do skip do keyword "CONSTRAINT"; discard name
                       columnProperty : Reader Unit) rest = none := by
    simp [h.keyword, columnProperty_of_closes h]
  have hmarks : (forM closingMarks fun ws => skip (keywords ws)) rest = some ((), rest) := by
    simp [closingMarks, h.keyword]
  simp [columnTokens, columnDefinition, htype, many_of_none hproperty, hmarks, columnDefinitionOf]

/-! ## Elements of a table -/

/-- What a new table is made of. -/
inductive Element where
  | column (c : Column)
  /-- The key of the table: some of its columns. -/
  | primaryKey (names : List String)

def Element.tokens : Element → List Token
  | .column c => columnTokens c
  | .primaryKey names =>
    .word "PRIMARY" :: .word "KEY" :: .symbol "(" ::
      (commaTokens (fun n => [.quoted n]) names ++ [.symbol ")"])

def Element.definition? : Element → Option ColumnDefinition
  | .column c => some (columnDefinitionOf c)
  | .primaryKey _ => none

/-- Whether an element can be written: columns need a type with a spelling of its own, and
keys some columns. -/
def Element.IsProper : Element → Prop
  | .column c => ∀ s, c.type ≠ .other s
  | .primaryKey names => names ≠ []

theorem keyColumns_names {names : List String} (hn : names ≠ []) (rest : List Token) :
    keyColumns (.symbol "(" :: (commaTokens (fun n => [.quoted n]) names ++ .symbol ")" :: rest)) =
      some ((), rest) := by
  have hread : separated (do
        discard name
        skip (oneOf ["ASC", "DESC"])
        skip do keyword "NULLS"; oneOf ["FIRST", "LAST"])
      (commaTokens (fun n => [Token.quoted n]) names ++ .symbol ")" :: rest) =
      some (names.map fun _ => (), .symbol ")" :: rest) := by
    refine separated_commaTokens hn Closes.comma (.parenthesis _) ?_ (by simp)
    intro n _ ts hts
    simp [hts.oneOf, hts.keyword]
  simp [keyColumns, parenthesized_of_read hread]

theorem element_tokens {e : Element} (he : e.IsProper) {rest : List Token} (h : Closes rest) :
    element (e.tokens ++ rest) = some (e.definition?, rest) := by
  cases e with
  | column c =>
    have hread := columnDefinition_columnTokens he h
    simp only [columnTokens, List.cons_append] at hread
    simp [element, Element.tokens, columnTokens, beginsConstraint, Token.isKeyword, Token.isWord,
      hread, Element.definition?]
  | primaryKey names =>
    have hcolumns := keyColumns_names he rest
    have hmany : characteristics rest = some ((), rest) := by
      simp [characteristics, many_of_none, h.keyword]
    have hbegins : beginsConstraint (.word "PRIMARY") = true := by decide
    simp [element, Element.tokens, hbegins, tableConstraint, key, method, Token.isKeyword,
      Token.isWord, hcolumns, h.keyword, hmany, Element.definition?]

/-- The tokens of the elements of a table, with the parentheses around them. -/
def elementsTokens (es : List Element) : List Token :=
  .symbol "(" :: (commaTokens Element.tokens es ++ [.symbol ")"])

theorem Element.tokens_head (e : Element) : e.tokens.head? ≠ some (.symbol ")") := by
  cases e <;> simp [Element.tokens, columnTokens]

theorem elements_tokens {es : List Element} (hne : es ≠ []) (hes : ∀ e ∈ es, e.IsProper) :
    elements (elementsTokens es) = some (es.filterMap Element.definition?, []) := by
  have hread : separated element (commaTokens Element.tokens es ++ [.symbol ")"]) =
      some (es.map Element.definition?, [.symbol ")"]) :=
    separated_commaTokens hne .comma (.parenthesis [])
      (fun e he ts hts => element_tokens (hes e he) hts) (by simp)
  have hclose : symbol ")" (commaTokens Element.tokens es ++ [.symbol ")"]) = none := by
    match es, hne with
    | e :: rest, _ =>
      have hhead := e.tokens_head
      cases htokens : e.tokens with
      | nil => cases e <;> simp [Element.tokens, columnTokens] at htokens
      | cons t ts =>
        have ht : t ≠ .symbol ")" := by simpa [htokens] using hhead
        simp [commaTokens, htokens, ht]
  simp [elements, elementsTokens, hclose, hread]

/-- A key has to have columns. -/
theorem element_emptyKey (rest : List Token) :
    element ((Element.primaryKey []).tokens ++ rest) = none := by
  have hbegins : beginsConstraint (.word "PRIMARY") = true := by decide
  have hprimary : Token.isKeyword "PRIMARY" (.word "PRIMARY") = true := by decide
  have hkey : Token.isKeyword "KEY" (.word "KEY") = true := by decide
  have husing : Token.isKeyword "USING" (.symbol "(") = false := by decide
  have hname : name? (.symbol ")") = none := rfl
  have hothers : ∀ k ∈ ["CONSTRAINT", "UNIQUE", "FOREIGN", "CHECK"],
      Token.isKeyword k (.word "PRIMARY") = false := by decide
  simp only [List.forall_mem_cons] at hothers
  simp [element, Element.tokens, commaTokens, hbegins, tableConstraint, hothers, hprimary, hkey,
    check, key, method, husing, keyColumns, Token.isWord, parenthesized, separated, name, hname]

/-- Columns are no elements of a table with a key of no columns behind them. -/
theorem elements_emptyKey {cs : List Column} (hne : cs ≠ [])
    (hcs : ∀ c ∈ cs, ∀ s, c.type ≠ .other s) :
    elements (elementsTokens (cs.map .column ++ [.primaryKey []])) = none := by
  have htokens : elementsTokens (cs.map .column ++ [.primaryKey []]) = .symbol "(" ::
      (commaTokens Element.tokens (cs.map .column) ++
        .symbol "," :: ((Element.primaryKey []).tokens ++ [.symbol ")"])) := by
    rw [elementsTokens, commaTokens_concat _ (by simpa using hne)]
    simp
  have hread : separated element (commaTokens Element.tokens (cs.map .column) ++
      .symbol "," :: ((Element.primaryKey []).tokens ++ [.symbol ")"])) =
      some ((cs.map .column).map Element.definition?,
        .symbol "," :: ((Element.primaryKey []).tokens ++ [.symbol ")"])) := by
    refine separated_commaTokens (by simpa using hne) Closes.comma (.comma _) ?_
      (by simp [element_emptyKey])
    intro e he ts hts
    obtain ⟨c, hc, rfl⟩ := List.mem_map.1 he
    exact element_tokens (e := .column c) (hcs c hc) hts
  have hclose : symbol ")" (commaTokens Element.tokens (cs.map .column) ++
      .symbol "," :: ((Element.primaryKey []).tokens ++ [.symbol ")"])) = none := by
    match cs, hne with
    | c :: rest, _ => simp [commaTokens, Element.tokens, columnTokens]
  rw [htokens]
  simp [elements, hclose, hread]

/-! ## Names of tables -/

/-- The tokens of a table's name; an empty namespace is left out. -/
def nameTokens (p : String × String) : List Token :=
  if p.1 = "" then [.quoted p.2] else [.quoted p.1, .symbol ".", .quoted p.2]

/-- The name that the tokens of a place are read as. -/
def nameOf (p : String × String) : QualifiedName :=
  if p.1 = "" then [.quoted p.2] else [.quoted p.1, .quoted p.2]

theorem qualifiedName_nameTokens (p : String × String) (rest : List Token)
    (h : symbol "." rest = none) :
    qualifiedName (nameTokens p ++ rest) = some (nameOf p, rest) := by
  have hend : many (do symbol "."; name) rest = some ([], rest) := many_of_none (by simp [h])
  unfold nameTokens nameOf
  split
  · simp [qualifiedName, hend]
  next hp =>
    have hmore : many (do symbol "."; name) (.symbol "." :: .quoted p.2 :: rest) =
        some ([.quoted p.2], rest) := by
      have hread := @many_flatMap Name String (do symbol "."; name)
        (fun s => [.symbol ".", .quoted s]) .quoted (fun _ => True) [p.2] rest (by simp) (by simp)
        trivial (by simp) (by simp [h])
      simpa using hread
    simp [qualifiedName, hmore]

/-! ## Statements -/

def createTokens (p : String × String) (es : List Element) : List Token :=
  .word "CREATE" :: .word "TABLE" :: (nameTokens p ++ elementsTokens es)

/-- The tokens of the statement that adds a column to a table. -/
def addColumnTokens (p : String × String) (c : Column) : List Token :=
  .word "ALTER" :: .word "TABLE" ::
    (nameTokens p ++ .word "ADD" :: .word "COLUMN" :: columnTokens c)

/-- A name begins with a quoted one, which is no word of the grammar. -/
theorem nameTokens_eq_cons (p : String × String) : ∃ s ts, nameTokens p = .quoted s :: ts := by
  unfold nameTokens
  split <;> exact ⟨_, _, rfl⟩

theorem keyword_nameTokens (p : String × String) (k : String) (rest : List Token) :
    keyword k (nameTokens p ++ rest) = none := by
  obtain ⟨s, ts, h⟩ := nameTokens_eq_cons p
  simp [h, Token.isKeyword]

theorem createTable_tokens (p : String × String) {es : List Element} (hne : es ≠ [])
    (hes : ∀ e ∈ es, e.IsProper) :
    createTable (nameTokens p ++ elementsTokens es) =
      some (.createTable (nameOf p) false (es.filterMap Element.definition?), []) := by
  have hname := qualifiedName_nameTokens p (elementsTokens es) (by simp [elementsTokens])
  have hone : ∀ ks, oneOf ks (elementsTokens es) = none := by
    simp [elementsTokens, Token.isKeyword]
  have hkey : ∀ k, keyword k (elementsTokens es) = none := by
    simp [elementsTokens, Token.isKeyword]
  have hproperties : tableProperties [] = some ((), []) := by
    simp [tableProperties, fileProperties]
  simp [createTable, keyword_nameTokens, hname, hone, hkey, elements_tokens hne hes, hproperties]

/-- A table is not created if its elements cannot be read. -/
theorem createTable_of_elements (p : String × String) {es : List Element}
    (h : elements (elementsTokens es) = none) :
    createTable (nameTokens p ++ elementsTokens es) = none := by
  have hname := qualifiedName_nameTokens p (elementsTokens es) (by simp [elementsTokens])
  have hone : ∀ ks, oneOf ks (elementsTokens es) = none := by
    simp [elementsTokens, Token.isKeyword]
  have hkey : ∀ k, keyword k (elementsTokens es) = none := by
    simp [elementsTokens, Token.isKeyword]
  simp [createTable, keyword_nameTokens, hname, hone, hkey, h]

theorem addition_tokens {c : Column} (hc : ∀ s, c.type ≠ .other s) :
    addition (.word "ADD" :: .word "COLUMN" :: columnTokens c) =
      some (.addColumn false (columnDefinitionOf c), []) := by
  have hread := columnDefinition_columnTokens hc .nil
  rw [List.append_nil] at hread
  have hadd : Token.isKeyword "ADD" (.word "ADD") = true := by decide
  have hcolumn : Token.isKeyword "COLUMN" (.word "COLUMN") = true := by decide
  have hif : Token.isKeyword "IF" (.word "COLUMN") = false := by decide
  have hbegins : beginsConstraint (.word "COLUMN") = false := by decide
  have hif' : keyword "IF" (columnTokens c) = none := by simp [columnTokens, Token.isKeyword]
  simp [addition, hadd, hcolumn, hif, hbegins, hif', hread]

theorem alterTable_tokens (p : String × String) {c : Column} (hc : ∀ s, c.type ≠ .other s) :
    alterTable (nameTokens p ++ .word "ADD" :: .word "COLUMN" :: columnTokens c) =
      some (.alterTable (nameOf p) [.addColumn false (columnDefinitionOf c)], []) := by
  have hname := qualifiedName_nameTokens p
    (.word "ADD" :: .word "COLUMN" :: columnTokens c) (by simp)
  have hmore : many (do symbol ","; addition <|> otherChange) [] = some ([], []) :=
    many_of_none (by simp)
  simp [alterTable, keyword_nameTokens, hname, separated, addition_tokens hc, hmore]

/-- A text that is one statement has that statement and no other. -/
theorem readAll_of_read {t : Token} {ts : List Token} {s : Statement} (ht : t ≠ .symbol ";")
    (h : read (t :: ts) = some (s, [])) : readAll (t :: ts) = some ([s], []) := by
  have hsemicolons : semicolons (t :: ts) = some ((), t :: ts) := by
    simp [semicolons, many_of_none, ht]
  have hended : many (do let s ← read; symbol ";"; semicolons; return s) (t :: ts) =
      some ([], t :: ts) := many_of_none (by simp [h])
  have hend : atEnd [] = some ((), []) := rfl
  simp only [readAll, run_bind, hsemicolons, Option.bind_some, hended, run_maybe, h, run_follows]
  simp [hend]

/-- A text that does not begin with a statement has none. -/
theorem readAll_of_not_read {t : Token} {ts : List Token} (ht : t ≠ .symbol ";")
    (h : read (t :: ts) = none) : readAll (t :: ts) = none := by
  have hsemicolons : semicolons (t :: ts) = some ((), t :: ts) := by
    simp [semicolons, many_of_none, ht]
  have hended : many (do let s ← read; symbol ";"; semicolons; return s) (t :: ts) =
      some ([], t :: ts) := many_of_none (by simp [h])
  have hend : atEnd (t :: ts) = none := rfl
  simp only [readAll, run_bind, hsemicolons, Option.bind_some, hended, run_maybe, h, run_follows]
  simp [hend]

/-! ## What statements begin with -/

/-- No query begins like a creation or a change. -/
theorem body_of_words (e q : Reader References) {w : String} (rest : List Token)
    (hw : ∀ k ∈ ["WITH", "SELECT", "VALUES", "TABLE"], Token.isKeyword k (.word w) = false) :
    Query.body e q (.word w :: rest) = none := by
  simp only [List.forall_mem_cons] at hw
  simp [Query.body, Query.withTables, Query.simple, Query.selection, parenthesized, hw]

theorem query_create (rest : List Token) : query (.word "CREATE" :: rest) = none :=
  body_of_words _ _ rest (by decide)

theorem query_alter (rest : List Token) : query (.word "ALTER" :: rest) = none :=
  body_of_words _ _ rest (by decide)

/-- No statement of another kind begins like a creation. -/
theorem remaining_create (rest : List Token) : remaining (.word "CREATE" :: rest) = none := by
  have hwords : ∀ k ∈ ["INSERT", "UPDATE", "DELETE", "DROP", "TRUNCATE", "COMMENT", "BEGIN",
      "START", "COMMIT", "END", "ROLLBACK", "SAVEPOINT", "RELEASE", "SET", "SHOW", "ANALYZE",
      "LISTEN", "UNLISTEN", "NOTIFY", "CALL", "GRANT", "REVOKE", "ALTER"],
      Token.isKeyword k (.word "CREATE") = false := by decide
  simp only [List.forall_mem_cons] at hwords
  simp [remaining, insertion, update, deletion, dropTable, drop, truncation, comment, transaction,
    setting, question, permission, hwords]

/-- Nothing else is created by a text that begins like the creation of a table. -/
theorem creation_of_createTable {ts : List Token} (h : createTable ts = none) :
    creation (.word "TABLE" :: ts) = none := by
  have hwords : ∀ k ∈ ["OR", "GLOBAL", "LOCAL", "TRANSIENT", "TEMP", "TEMPORARY", "UNIQUE", "INDEX",
      "MATERIALIZED", "VIEW", "SCHEMA", "DATABASE", "EXTENSION", "SEQUENCE"],
      Token.isKeyword k (.word "TABLE") = false := by decide
  simp only [List.forall_mem_cons] at hwords
  have htable : Token.isKeyword "TABLE" (.word "TABLE") = true := by decide
  simp [creation, indexCreation, viewCreation, plainCreation, hwords, htable, h]

/-- What begins like the creation of a table is one or nothing. -/
theorem read_createTable (ts : List Token) :
    read (.word "CREATE" :: .word "TABLE" :: ts) = createTable ts := by
  have hcreate : Token.isKeyword "CREATE" (.word "CREATE") = true := by decide
  have htable : Token.isKeyword "TABLE" (.word "TABLE") = true := by decide
  cases h : createTable ts with
  | none =>
    have halter : Token.isKeyword "ALTER" (.word "CREATE") = false := by decide
    have hexplain : Token.isKeyword "EXPLAIN" (.word "CREATE") = false := by decide
    simp [read, plain, hcreate, halter, hexplain, creation_of_createTable h, query_create,
      remaining_create]
  | some p =>
    have hwords : ∀ k ∈ ["OR", "GLOBAL", "LOCAL", "TRANSIENT", "TEMP", "TEMPORARY"],
        Token.isKeyword k (.word "TABLE") = false := by decide
    simp only [List.forall_mem_cons] at hwords
    simp [read, plain, hcreate, creation, hwords, htable, h]

/-- No statement of another kind begins like the change of a table. -/
theorem remaining_alterTable (rest : List Token) :
    remaining (.word "ALTER" :: .word "TABLE" :: rest) = none := by
  have hwords : ∀ k ∈ ["INSERT", "UPDATE", "DELETE", "DROP", "TRUNCATE", "COMMENT", "BEGIN",
      "START", "COMMIT", "END", "ROLLBACK", "SAVEPOINT", "RELEASE", "SET", "SHOW", "ANALYZE",
      "LISTEN", "UNLISTEN", "NOTIFY", "CALL", "GRANT", "REVOKE"],
      Token.isKeyword k (.word "ALTER") = false := by decide
  have hkinds : ∀ k ∈ ["INDEX", "VIEW", "SCHEMA"],
      Token.isKeyword k (.word "TABLE") = false := by decide
  simp only [List.forall_mem_cons] at hwords hkinds
  simp [remaining, insertion, update, deletion, dropTable, drop, truncation, comment, transaction,
    setting, question, permission, hwords, hkinds]

/-- What begins like the change of a table is one or nothing. -/
theorem read_alterTable (ts : List Token) :
    read (.word "ALTER" :: .word "TABLE" :: ts) = alterTable ts := by
  have hcreate : Token.isKeyword "CREATE" (.word "ALTER") = false := by decide
  have halter : Token.isKeyword "ALTER" (.word "ALTER") = true := by decide
  have htable : Token.isKeyword "TABLE" (.word "TABLE") = true := by decide
  have hexplain : Token.isKeyword "EXPLAIN" (.word "ALTER") = false := by decide
  cases h : alterTable ts <;>
    simp [read, plain, hcreate, halter, htable, hexplain, h, query_alter, remaining_alterTable]

/-! ## Whole texts -/

/-- The creation of a table is read as it is meant. -/
theorem readAll_createTokens (p : String × String) {es : List Element} (hne : es ≠ [])
    (hes : ∀ e ∈ es, e.IsProper) :
    readAll (createTokens p es) =
      some ([.createTable (nameOf p) false (es.filterMap Element.definition?)], []) := by
  refine readAll_of_read (by simp) ?_
  rw [read_createTable, createTable_tokens p hne hes]

/-- The creation of a table with a key of no columns breaks the grammar. -/
theorem readAll_emptyKey (p : String × String) {cs : List Column} (hne : cs ≠ [])
    (hcs : ∀ c ∈ cs, ∀ s, c.type ≠ .other s) :
    readAll (createTokens p (cs.map .column ++ [.primaryKey []])) = none := by
  refine readAll_of_not_read (by simp) ?_
  rw [read_createTable, createTable_of_elements p (elements_emptyKey hne hcs)]

/-- The addition of a column is read as it is meant. -/
theorem readAll_addColumnTokens (p : String × String) {c : Column}
    (hc : ∀ s, c.type ≠ .other s) :
    readAll (addColumnTokens p c) =
      some ([.alterTable (nameOf p) [.addColumn false (columnDefinitionOf c)]], []) := by
  refine readAll_of_read (by simp) ?_
  rw [read_alterTable, alterTable_tokens p hc]

end MetricTables.Sql.Grammar
