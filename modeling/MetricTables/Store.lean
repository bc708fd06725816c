import MetricTables.Store.Error

/-!
# Stores

A store keeps tables and answers three calls: what columns a table has, the execution of
a text of SQL, and a comment on a column. Comments carry what a column is for from one
run to the next. A call leaves a new state of the store behind, also when it fails.

## Main definitions

* `StoredColumn` — a column as a store reports it.
* `Store` — the calls of a store whose states are of some type.
-/

namespace MetricTables

/-- A column as a store reports it. -/
structure StoredColumn where
  name : String
  /-- The declared type in the spelling of the store. -/
  type : String
  comment : Option String := none
  deriving DecidableEq, Repr, Inhabited

/-- The calls of a store with states in `σ`. -/
class Store (σ : Type) where
  /-- What the kind of store is called. -/
  kind : String
  /-- How long a call takes. -/
  latency : σ → Duration
  /-- The columns of a table, or nothing if the store has no such table. -/
  columns (namespaceName table : String) : σ → Except StoreError (Option (List StoredColumn)) × σ
  /-- Runs a text of SQL. -/
  execute (sql : String) : σ → Except StoreError Unit × σ
  /-- Puts a comment on a column. -/
  comment (namespaceName table column text : String) : σ → Except StoreError Unit × σ

end MetricTables
