import MetricTables.Sql.Expression

/-!
# Statements

What a text of SQL asks a store to do. Tables are created and removed and columns are
added; of all other statements only the text is known that a dialect shows for them.

## Main definitions

* `ColumnDefinition`, `TableChange`, `Statement` — what a text may ask for.
* `Dialect` — how texts are read.
-/

namespace MetricTables.Sql

/-- A column as a statement defines it. -/
structure ColumnDefinition where
  name : Name
  /-- The declared type in one spelling for all ways to write it. -/
  type : String
  /-- The words of the declared type as they are written, without arguments. -/
  typeWords : String
  deriving DecidableEq, Repr, Inhabited

/-- One change of a table. -/
inductive TableChange where
  | addColumn (ifNotExists : Bool) (column : ColumnDefinition)
  /-- A change that adds no column. -/
  | other (shown : String)
  deriving DecidableEq, Repr, Inhabited

/-- What a text may ask for. -/
inductive Statement where
  | createTable (name : QualifiedName) (ifNotExists : Bool) (columns : List ColumnDefinition)
  | alterTable (name : QualifiedName) (changes : List TableChange)
  | dropTable (ifExists : Bool) (names : List QualifiedName) (shown : String)
  | query (references : References) (shown : String)
  | other (shown : String)
  deriving DecidableEq, Repr, Inhabited

/-- How texts are read: as statements, or not at all, for a reason in words. -/
structure Dialect where
  read : String → Except String (List Statement)

end MetricTables.Sql
