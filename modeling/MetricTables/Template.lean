import MetricTables.Column
import MetricTables.Text.Blank

/-!
# Statement templates

A template is the text of a statement with placeholders between double braces. A
placeholder names a table or a set of columns, and after points how it is written.

| Variable | Modifiers | Stands for |
|---|---|---|
| `table`, `metric_table`, `tag_table` | none | the quoted name with its namespace |
| | `name` | the quoted name |
| | `raw` | the name as it is |
| `columns`, `all_columns` | `tags`, `fields`, `time`, `tag_id` | the columns of these roles only |
| | `definitions`, `names` | names with types, or names |

## Main definitions

* `Template.Part`, `Template` — the parts of a text, and the text with its parts.
* `Template.render` — the statement in a context.
* `Template.printParts` — a text with the given parts.
-/

namespace MetricTables

namespace Template

/-- A table that a placeholder can name. -/
inductive TableVariable where
  /-- The table that the statement is about. -/
  | table
  | metricTable
  | tagTable
  deriving DecidableEq, Repr, Inhabited

/-- How the name of a table is written. -/
inductive TableFormat where
  | qualified
  | name
  | raw
  deriving DecidableEq, Repr, Inhabited

/-- A set of columns that a placeholder can name. -/
inductive ColumnsVariable where
  /-- The columns that the statement creates or adds. -/
  | columns
  /-- The columns of the table after the statement. -/
  | allColumns
  deriving DecidableEq, Repr, Inhabited

/-- How a column is written. -/
inductive ColumnFormat where
  | definitions
  | names
  deriving DecidableEq, Repr, Inhabited

/-- A part of a template. -/
inductive Part where
  | text (s : String)
  | table (var : TableVariable) (format : TableFormat)
  /-- Columns of the given roles; of all roles if none is given. -/
  | columns (var : ColumnsVariable) (roles : List Role) (format : ColumnFormat)
  deriving DecidableEq, Repr, Inhabited

/-- Why a text is no template, or why a template has no statement in a context. -/
inductive Fault where
  | unterminated
  | emptyPlaceholder
  | unknownVariable (name : String)
  | invalidModifiers (var modifiers : String)
  | secondFormat (var : String)
  | unknownModifier (var modifier : String)
  | filterAfterFormat (modifier : String)
  | noTagTable
  deriving DecidableEq, Repr, Inhabited

def Fault.message : Fault → String
  | .unterminated => "unterminated placeholder"
  | .emptyPlaceholder => "empty placeholder"
  | .unknownVariable v => "unknown variable: " ++ v
  | .invalidModifiers v m => "invalid modifiers for " ++ v ++ ": " ++ m
  | .secondFormat v => v ++ " takes a single format"
  | .unknownModifier v m => "unknown modifier for " ++ v ++ ": " ++ m
  | .filterAfterFormat m => "role filter " ++ m ++ " must come before the format"
  | .noTagTable => "tag_table is only available when tags are stored as foreign keys"

/-- What a template is rendered with. -/
structure Context where
  namespaceName : String
  table : String
  metricTable : String
  /-- The tag table, if tags have one. -/
  tagTable : Option String
  columns : List Column
  allColumns : List Column
  deriving Repr, Inhabited

def Context.tableName (c : Context) : TableVariable → Except Fault String
  | .table => .ok c.table
  | .metricTable => .ok c.metricTable
  | .tagTable =>
    match c.tagTable with
    | some t => .ok t
    | none => .error .noTagTable

def ColumnFormat.write : ColumnFormat → Column → String
  | .definitions, c => c.definition
  | .names, c => Identifier.quote c.name

def Part.render (c : Context) : Part → Except Fault String
  | .text s => .ok s
  | .table v f => do
    let name ← c.tableName v
    match f with
    | .qualified => return Identifier.qualified c.namespaceName name
    | .name => return Identifier.quote name
    | .raw => return name
  | .columns v roles f =>
    let columns := match v with
      | .columns => c.columns
      | .allColumns => c.allColumns
    let chosen := columns.filter fun col => roles.isEmpty || roles.contains col.role
    .ok (Text.join ", " (chosen.map f.write))

/-- The texts of parts in a context, one after the other. -/
def renderParts (c : Context) : List Part → Except Fault String
  | [] => .ok ""
  | p :: ps => do
    let s ← p.render c
    let rest ← renderParts c ps
    return s ++ rest

/-! ## Printing -/

def TableVariable.name : TableVariable → String
  | .table => "table"
  | .metricTable => "metric_table"
  | .tagTable => "tag_table"

def ColumnsVariable.name : ColumnsVariable → String
  | .columns => "columns"
  | .allColumns => "all_columns"

def roleModifier : Role → String
  | .time => "time"
  | .tagId => "tag_id"
  | .tag => "tags"
  | .field => "fields"

def TableFormat.modifiers : TableFormat → List String
  | .qualified => []
  | .name => ["name"]
  | .raw => ["raw"]

def ColumnFormat.modifier : ColumnFormat → String
  | .definitions => "definitions"
  | .names => "names"

def placeholder (segments : List String) : String :=
  "\x7b\x7b " ++ Text.join "." segments ++ " \x7d\x7d"

/-- A part as it stands in a template. -/
def Part.print : Part → String
  | .text s => s
  | .table v f => placeholder (v.name :: f.modifiers)
  | .columns v roles f => placeholder (v.name :: (roles.map roleModifier ++ [f.modifier]))

def printParts (ps : List Part) : String := String.join (ps.map Part.print)

end Template

/-- A template: its text and the parts of the text. -/
structure Template where
  source : String
  parts : List Template.Part
  deriving DecidableEq, Repr, Inhabited

namespace Template

/-- The statement of a template in a context. -/
def render (t : Template) (c : Context) : Except Fault String := renderParts c t.parts

end Template

end MetricTables
