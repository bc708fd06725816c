import MetricTables.KeyMap
import MetricTables.Sql.Statement.Reader
import MetricTables.Store

/-!
# Catalogs

A catalog holds the structures of tables under their places and changes as statements
say. A text of statements changes all or nothing: its result is a new catalog or an
error.

Texts are read by a dialect. The standard one is a grammar of statements with one reason
for all texts that it refuses, and nothing depends on the words of reasons: what holds of
texts that are not named holds in every dialect.

## Main definitions

* `Catalog` — tables with their columns.
* `Catalog.apply` — the effect of a statement.
* `Catalog.run` — the effect of a text.
-/

namespace MetricTables

/-- The place of a table: a namespace, which may be empty, and a name. -/
abbrev TablePlace := String × String

/-- Tables with their columns, in the order of their places. -/
abbrev Catalog := KeyMap TablePlace (List StoredColumn)

def StoredColumn.ofDefinition (d : Sql.ColumnDefinition) : StoredColumn :=
  { name := d.name.meaning, type := d.type }

/-! ## The standard dialect -/

/-- What the texts of grammar errors begin with. -/
def Catalog.grammarPhrase : String := "sql parser error"

/-- The one reason that the standard dialect has. -/
def Catalog.grammarReason : String := grammarPhrase ++ ": the text is no sequence of statements"

/-- Reads texts by the grammar of statements. -/
def Sql.Dialect.standard : Sql.Dialect where
  read sql :=
    match Sql.statements? sql with
    | none => .error Catalog.grammarReason
    | some statements => .ok statements

namespace Catalog

/-! ## Why a statement is rejected -/

def relationExists (table : String) : StoreError :=
  .database StateCode.duplicateTable ("relation \"" ++ table ++ "\" already exists")

def relationMissing (table : String) : StoreError :=
  .database StateCode.undefinedTable ("relation \"" ++ table ++ "\" does not exist")

def columnMissing (table column : String) : StoreError :=
  .database StateCode.undefinedColumn
    ("column \"" ++ column ++ "\" of relation \"" ++ table ++ "\" does not exist")

def columnExists (table column : String) : StoreError :=
  .database StateCode.duplicateColumn
    ("column \"" ++ column ++ "\" of relation \"" ++ table ++ "\" already exists")

def columnRepeated (column : String) : StoreError :=
  .database StateCode.duplicateColumn ("column \"" ++ column ++ "\" specified more than once")

def withoutColumns (table : String) : StoreError :=
  .database StateCode.syntaxError ("table \"" ++ table ++ "\" has no columns")

def improperName (name : Sql.QualifiedName) : StoreError :=
  .database StateCode.syntaxError ("improper qualified name: " ++ Sql.QualifiedName.shown name)

def grammarError (reason : String) : StoreError := .database StateCode.syntaxError reason

/-- What the texts of unsupported statements begin with. -/
def unsupportedPhrase : String := "memory store cannot apply"

def unsupported (shown : String) : StoreError :=
  .database StateCode.featureNotSupported (unsupportedPhrase ++ ": " ++ shown)

/-! ## Statements -/

/-- The place that a name means: the first of two parts is the namespace. -/
def place (name : Sql.QualifiedName) : Except StoreError TablePlace :=
  match name with
  | [table] => .ok ("", table.meaning)
  | [namespaceName, table] => .ok (namespaceName.meaning, table.meaning)
  | _ => .error (improperName name)

def hasColumn (columns : List StoredColumn) (name : String) : Bool :=
  columns.any fun c => c.name == name

/-- The columns of a new table; no two may have one name. -/
def newColumns (definitions : List Sql.ColumnDefinition) : Except StoreError (List StoredColumn) :=
  definitions.foldlM
    (fun columns d =>
      let c := StoredColumn.ofDefinition d
      if hasColumn columns c.name then .error (columnRepeated c.name) else .ok (columns ++ [c]))
    []

def change (table : String) (columns : List StoredColumn) :
    Sql.TableChange → Except StoreError (List StoredColumn)
  | .addColumn ifNotExists d =>
    let c := StoredColumn.ofDefinition d
    if hasColumn columns c.name then
      if ifNotExists then .ok columns else .error (columnExists table c.name)
    else .ok (columns ++ [c])
  | .other shown => .error (unsupported shown)

def createTable (t : Catalog) (name : Sql.QualifiedName) (ifNotExists : Bool)
    (definitions : List Sql.ColumnDefinition) : Except StoreError Catalog := do
  let p ← place name
  if t.contains p then
    if ifNotExists then return t else throw (relationExists p.2)
  if definitions.isEmpty then throw (withoutColumns p.2)
  let columns ← newColumns definitions
  return t.insert p columns

def alterTable (t : Catalog) (name : Sql.QualifiedName) (changes : List Sql.TableChange) :
    Except StoreError Catalog := do
  let p ← place name
  match t.find? p with
  | none => throw (relationMissing p.2)
  | some columns =>
    let changed ← changes.foldlM (change p.2) columns
    return t.insert p changed

def apply (t : Catalog) : Sql.Statement → Except StoreError Catalog
  | .createTable name ifNotExists definitions => t.createTable name ifNotExists definitions
  | .alterTable name changes => t.alterTable name changes
  | .dropTable _ _ shown | .query _ shown | .other shown => .error (unsupported shown)

/-- The effect of a text: of all its statements in order. -/
def run (t : Catalog) (sql : String) (g : Sql.Dialect := .standard) : Except StoreError Catalog :=
  match g.read sql with
  | .error reason => .error (grammarError reason)
  | .ok statements => statements.foldlM apply t

theorem run_of_statements (t : Catalog) {sql : String} {statements : List Sql.Statement}
    (h : Sql.statements? sql = some statements) : t.run sql = statements.foldlM apply t := by
  simp only [run, Sql.Dialect.standard, h]

theorem run_of_none (t : Catalog) {sql : String} (h : Sql.statements? sql = none) :
    t.run sql = .error (grammarError grammarReason) := by
  simp only [run, Sql.Dialect.standard, h]

/-- The catalog with a comment on a column. The first column of the name gets it. -/
def comment (t : Catalog) (p : TablePlace) (column text : String) : Except StoreError Catalog :=
  match t.find? p with
  | none => .error (relationMissing p.2)
  | some columns =>
    match columns.findIdx? fun c => c.name == column with
    | none => .error (columnMissing p.2 column)
    | some i => .ok (t.insert p (columns.modify i fun c => { c with comment := some text }))

end Catalog

end MetricTables
