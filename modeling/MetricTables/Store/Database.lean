import MetricTables.KeyMap
import MetricTables.Sql.Statement.Reader
import MetricTables.Store

/-!
# The embedded database

A database in one file that keeps no comments on columns of its own, so comments are rows
of a table beside the others, one row for a namespace, a table and a column. Names of
tables and columns do not count case, and there is one namespace, `main`, which an empty
one stands for too. The engine reports failures as messages without codes.

## Main definitions

* `Database` — tables and the rows of the comment table.
* `Database.execute`, `Database.columns`, `Database.comment` — its calls.

## Main statements

* `Database.commentOf_comment` — a comment is read back where it was put, and nowhere
  else does anything change.
-/

namespace MetricTables

/-- A row of the comment table. -/
structure CommentRow where
  namespaceName : String
  table : String
  column : String
  text : String
  deriving DecidableEq, Repr, Inhabited

namespace CommentRow

def isFor (r : CommentRow) (namespaceName table column : String) : Bool :=
  r.namespaceName == namespaceName && r.table == table && r.column == column

end CommentRow

/-- The state of an embedded database. -/
structure Database where
  /-- Tables with their columns, under names in lower case. -/
  tables : KeyMap String (List StoredColumn)
  /-- The rows of the comment table, oldest first. -/
  comments : List CommentRow
  deriving Inhabited

namespace Database

def commentTable : String := "_tabula_column_comments"

def commentTableColumns : List StoredColumn :=
  ["namespace", "table_name", "column_name", "comment"].map fun n => { name := n, type := "TEXT" }

def prepared (b : Database) : Database :=
  if b.tables.contains commentTable then b
  else { tables := b.tables.insert commentTable commentTableColumns, comments := [] }

/-- A new database: it has the comment table only. -/
def fresh : Database := prepared { tables := .empty, comments := [] }

/-! ## Failures -/

/-- A failure with the message of the engine. -/
def failure (message : String) : StoreError :=
  .ofEngineMessage ("SQL execution failure: \x60" ++ message ++ "\x60")

/-! ## Tables -/

/-- Whether a namespace is the one of the database. -/
def isMain (namespaceName : String) : Bool :=
  namespaceName.isEmpty || Text.lower namespaceName == "main"

def tableKey (name : Sql.QualifiedName) : Except StoreError String :=
  match name with
  | [table] => .ok (Text.lower table.text)
  | [namespaceName, table] =>
    if isMain namespaceName.text then .ok (Text.lower table.text)
    else .error (failure ("no such database: " ++ namespaceName.text))
  | _ => .error (failure "unexpected token")

def hasColumn (columns : List StoredColumn) (name : String) : Bool :=
  columns.any fun c => c.name == Text.lower name

def addColumn (columns : List StoredColumn) (d : Sql.ColumnDefinition) :
    Except StoreError (List StoredColumn) :=
  if hasColumn columns d.name.text then .error (failure ("duplicate column name: " ++ d.name.text))
  else .ok (columns ++ [{ name := Text.lower d.name.text, type := d.typeWords }])

def checkQuery (b : Database) (r : Sql.References) : Except StoreError Unit := do
  let found ← r.tables.mapM fun n => do
    match b.tables.find? (← tableKey n) with
    | some columns => return columns
    | none => throw (failure ("no such table: " ++ Sql.QualifiedName.shown n))
  for n in r.columns do
    if !found.any (hasColumn · n.text) then throw (failure ("no such column: " ++ n.text))

def apply (b : Database) : Sql.Statement → Except StoreError Database
  | .createTable name ifNotExists definitions => do
    let key ← tableKey name
    if b.tables.contains key then
      if ifNotExists then return b else throw (failure ("Table " ++ key ++ " already exists"))
    if definitions.isEmpty then throw (failure "unexpected end of input")
    let columns ← definitions.foldlM addColumn []
    return { b with tables := b.tables.insert key columns }
  | .alterTable name [.addColumn false d] => do
    let key ← tableKey name
    match b.tables.find? key with
    | none => throw (failure ("no such table: " ++ key))
    | some columns =>
      let wider ← addColumn columns d
      return { b with tables := b.tables.insert key wider }
  | .alterTable _ _ => .error (failure "unexpected token")
  | .dropTable ifExists [name] _ => do
    let key ← tableKey name
    if b.tables.contains key then
      return { tables := b.tables.erase key
               comments := if key = commentTable then [] else b.comments }
    if ifExists then return b else throw (failure ("no such table: " ++ key))
  | .dropTable _ _ _ => .error (failure "unexpected token")
  | .query r _ => do
    b.checkQuery r
    return b
  | .other shown => .error (failure ("unsupported statement: " ++ shown))

/-- Runs the first statement of a text. -/
def execute (b : Database) (sql : String) : Except StoreError Database :=
  match Sql.statements? sql with
  | none => .error (failure "unexpected token")
  | some [] => .error (failure "The supplied SQL string contains no statements")
  | some (s :: _) => b.apply s

/-! ## Comments -/

/-- Checks that comments can be asked for and written: the comment table can be changed like
any other. -/
def checkComments (b : Database) : Except StoreError Unit :=
  b.checkQuery
    { tables := [[.bare commentTable]], columns := commentTableColumns.map fun c => .bare c.name }

/-- Puts a comment in the place of one that may be there. -/
def comment (b : Database) (namespaceName table column text : String) : Database :=
  { b with comments :=
      b.comments.filter (fun r => !r.isFor namespaceName table column) ++
        [⟨namespaceName, table, column, text⟩] }

/-- The comment on a column: the text of the newest row about it. -/
def commentOf (b : Database) (namespaceName table column : String) : Option String :=
  (b.comments.filter fun r => r.isFor namespaceName table column).getLast?.map (·.text)

/-- A comment is read back where it was put, and nowhere else does anything change. -/
theorem commentOf_comment (b : Database) (n t c text n' t' c' : String) :
    (b.comment n t c text).commentOf n' t' c' =
      if n = n' ∧ t = t' ∧ c = c' then some text else b.commentOf n' t' c' := by
  unfold commentOf comment
  split
  next h =>
    obtain ⟨rfl, rfl, rfl⟩ := h
    simp [CommentRow.isFor]
  next h =>
    have other : CommentRow.isFor ⟨n, t, c, text⟩ n' t' c' = false := by
      simpa [CommentRow.isFor] using h
    have kept : ∀ r : CommentRow, r.isFor n' t' c' → !r.isFor n t c := by
      intro r hr
      simp only [CommentRow.isFor, Bool.and_eq_true, beq_iff_eq] at hr
      obtain ⟨⟨rfl, rfl⟩, rfl⟩ := hr
      simp only [CommentRow.isFor, Bool.not_eq_true', Bool.and_eq_false_iff, beq_eq_false_iff_ne]
      by_cases hn : n = r.namespaceName
      · by_cases ht : t = r.table
        · exact .inr fun hc => h ⟨hn, ht, hc.symm⟩
        · exact .inl (.inr fun e => ht e.symm)
      · exact .inl (.inl fun e => hn e.symm)
    rw [List.filter_append, List.filter_filter]
    have same : (b.comments.filter fun r => r.isFor n' t' c' && !r.isFor n t c) =
        b.comments.filter fun r => r.isFor n' t' c' := by
      apply List.filter_congr
      intro r _
      by_cases hr : r.isFor n' t' c'
      · simp [hr, kept r hr]
      · simp [hr]
    rw [same]
    simp [other]

/-- The columns of a table with their comments. Names of tables do not count case, but a
comment is found under the very name that it was given under. -/
def columns (b : Database) (namespaceName table : String) :
    Except StoreError (Option (List StoredColumn)) :=
  if isMain namespaceName then
    match b.tables.find? (Text.lower table) with
    | none => .ok none
    | some cs => do
      b.checkComments
      return some (cs.map fun c => { c with comment := b.commentOf namespaceName table c.name })
  else .error (failure ("no such database: " ++ namespaceName))

instance : Store Database where
  kind := "turso"
  latency _ := .zero
  columns namespaceName table b := (b.columns namespaceName table, b)
  execute sql b :=
    match b.execute sql with
    | .ok b => (.ok (), b)
    | .error e => (.error e, b)
  comment namespaceName table column text b :=
    match b.checkComments with
    | .ok () => (.ok (), b.comment namespaceName table column text)
    | .error e => (.error e, b)

end Database

end MetricTables
