import MetricTables.Json
import MetricTables.Json.Tree
import MetricTables.Store.Database

/-!
# Database images

The text of a database file: one JSON object with the tables and the rows of the comment
table.

## Main definitions

* `Database.image` — the text of a database.
* `Database.ofImage?` — the database of a text.
-/

namespace MetricTables.Database

def textRow (texts : List String) : Json := .array (texts.map .text)

def tableImage (table : String × List StoredColumn) : Json :=
  .array [.text table.1, .array (table.2.map fun c => textRow [c.name, c.type])]

def image (b : Database) : String :=
  (Json.object
    [("tables", .array (b.tables.entries.map tableImage)),
      ("comments", .array (b.comments.map fun r =>
        textRow [r.namespaceName, r.table, r.column, r.text]))]).compact

def textRow? : Json.Tree → Option (List String)
  | .array items => items.mapM fun t =>
    match t with
    | .text s => s
    | _ => none
  | _ => none

def column? (t : Json.Tree) : Option StoredColumn := do
  match ← textRow? t with
  | [name, type] => some { name, type }
  | _ => none

def table? : Json.Tree → Option (String × List StoredColumn)
  | .array [.text (some name), .array columns] => do return (name, ← columns.mapM column?)
  | _ => none

def commentRow? (t : Json.Tree) : Option CommentRow := do
  match ← textRow? t with
  | [namespaceName, table, column, text] => some ⟨namespaceName, table, column, text⟩
  | _ => none

def ofImage? (s : String) : Option Database := do
  match ← Json.Tree.read? s with
  | .object [(some "tables", .array tables), (some "comments", .array comments)] =>
    return { tables := .ofList (← tables.mapM table?), comments := ← comments.mapM commentRow? }
  | _ => none

end MetricTables.Database
