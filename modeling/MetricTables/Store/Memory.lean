import MetricTables.Store.Catalog

/-!
# The store in memory

A catalog with a journal of the texts that took effect. Failures can be planned: the
store can go offline, fail the next executions, or fail those of certain texts; and
writes of others can be planned to land just before an execution.

## Main definitions

* `MemoryStore` — the state of the store.
* `MemoryStore.execute` — one execution, planned events first.
-/

namespace MetricTables

/-- The state of a store in memory that reads texts in a dialect. -/
structure MemoryStore (g : Sql.Dialect := .standard) where
  tables : Catalog := .empty
  /-- The texts that took effect, oldest first. -/
  executed : List String := []
  /-- How many times the columns of a table were asked for. -/
  structureQueries : Nat := 0
  isOffline : Bool := false
  /-- Failures of the next executions. -/
  nextFailures : List StoreError := []
  /-- Failures of texts in which a piece occurs. -/
  textFailures : List (String × StoreError) := []
  /-- Writes of others; each lands just before an execution. -/
  otherWrites : List (TablePlace × List StoredColumn) := []
  latency : Duration := .zero
  deriving Inhabited

namespace MemoryStore

variable {g : Sql.Dialect}

/-- What every call answers while the store is offline. -/
def offline : StoreError := .connection "memory store is offline"

/-! ## Planned events -/

/-- Puts a table in place without a statement. -/
def putTable (s : MemoryStore g) (p : TablePlace) (columns : List StoredColumn) : MemoryStore g :=
  { s with tables := s.tables.insert p columns }

/-- Takes a table away without a statement. -/
def dropTable (s : MemoryStore g) (p : TablePlace) : MemoryStore g :=
  { s with tables := s.tables.erase p }

def setOffline (s : MemoryStore g) (isOffline : Bool) : MemoryStore g := { s with isOffline }

/-- Plans the failure of an execution to come. -/
def failNext (s : MemoryStore g) (e : StoreError) : MemoryStore g :=
  { s with nextFailures := s.nextFailures ++ [e] }

/-- Plans the failure of all texts in which a piece occurs. -/
def failContaining (s : MemoryStore g) (piece : String) (e : StoreError) : MemoryStore g :=
  { s with textFailures := s.textFailures ++ [(piece, e)] }

/-- Plans a write of another writer before an execution to come. -/
def planWrite (s : MemoryStore g) (p : TablePlace) (columns : List StoredColumn) : MemoryStore g :=
  { s with otherWrites := s.otherWrites ++ [(p, columns)] }

/-! ## Calls -/

/-- The columns of a table; a call that is answered is counted. -/
def columns (s : MemoryStore g) (p : TablePlace) :
    Except StoreError (Option (List StoredColumn)) × MemoryStore g :=
  if s.isOffline then (.error offline, s)
  else (.ok (s.tables.find? p), { s with structureQueries := s.structureQueries + 1 })

/-- Lets the next write of another writer land. -/
def landWrite (s : MemoryStore g) : MemoryStore g :=
  match s.otherWrites with
  | [] => s
  | (p, columns) :: rest => { s.putTable p columns with otherWrites := rest }

@[simp] theorem landWrite_executed (s : MemoryStore g) : s.landWrite.executed = s.executed := by
  unfold landWrite
  split <;> rfl

@[simp] theorem landWrite_isOffline (s : MemoryStore g) :
    s.landWrite.isOffline = s.isOffline := by
  unfold landWrite
  split <;> rfl

@[simp] theorem landWrite_nextFailures (s : MemoryStore g) :
    s.landWrite.nextFailures = s.nextFailures := by
  unfold landWrite
  split <;> rfl

@[simp] theorem landWrite_textFailures (s : MemoryStore g) :
    s.landWrite.textFailures = s.textFailures := by
  unfold landWrite
  split <;> rfl

@[simp] theorem landWrite_latency (s : MemoryStore g) : s.landWrite.latency = s.latency := by
  unfold landWrite
  split <;> rfl

def textFailure? (s : MemoryStore g) (sql : String) : Option StoreError :=
  (s.textFailures.find? fun f => Text.occursIn f.1 sql).map (·.2)

/-- Runs a text on the tables and notes it if it takes effect. -/
def runText (s : MemoryStore g) (sql : String) : Except StoreError Unit × MemoryStore g :=
  match s.tables.run sql g with
  | .error e => (.error e, s)
  | .ok tables => (.ok (), { s with tables, executed := s.executed ++ [sql] })

/-- One execution while the store is online and no write of others is due. -/
def executeUndisturbed (s : MemoryStore g) (sql : String) :
    Except StoreError Unit × MemoryStore g :=
  match s.nextFailures with
  | e :: rest => (.error e, { s with nextFailures := rest })
  | [] =>
    match s.textFailure? sql with
    | some e => (.error e, s)
    | none => s.runText sql

/-- One execution. -/
def execute (s : MemoryStore g) (sql : String) : Except StoreError Unit × MemoryStore g :=
  if s.isOffline then (.error offline, s) else s.landWrite.executeUndisturbed sql

/-- Puts a comment on a column. -/
def comment (s : MemoryStore g) (p : TablePlace) (column text : String) :
    Except StoreError Unit × MemoryStore g :=
  if s.isOffline then (.error offline, s)
  else
    match s.tables.comment p column text with
    | .error e => (.error e, s)
    | .ok tables => (.ok (), { s with tables })

instance : Store (MemoryStore g) where
  kind := "memory"
  latency := MemoryStore.latency
  columns namespaceName table s := s.columns (namespaceName, table)
  execute sql s := s.execute sql
  comment namespaceName table column text s := s.comment (namespaceName, table) column text

end MemoryStore

end MetricTables
