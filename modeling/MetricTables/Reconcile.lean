import MetricTables.Cache
import MetricTables.Options
import MetricTables.Store

/-!
# Reconciliation

Brings a table in step with the columns that are required: what is known of the table is
compared first, then what the store says, and then the table is created or columns are
added. Columns that the table cannot have are reported as missing, and so one bad column
never makes the others fail. What is known changes only after the store confirmed it.

Another writer may create the table or a column at any time. A statement that fails since
its object is already there is therefore no failure: the store is asked again, and its
answer counts.

## Main definitions

* `Reconciliation` — computations on a store, a clock and one definition.
* `Request` — a table with the columns that are required.
* `Request.ensure` — brings a table in step and gives the missing columns.
-/

namespace MetricTables

/-- What reconciliation of one table works on. -/
structure Workspace (σ : Type) where
  store : σ
  /-- How long the calls of the store took so far. -/
  elapsed : Duration := .zero
  /-- What is known of the table. -/
  definition : Definition := .unknown
  deriving Inhabited

/-- Computations on a store, a clock and one definition. What they did stays done if they
fail. -/
abbrev Reconciliation (σ : Type) := ExceptT SchemaError (StateM (Workspace σ))

/-- A table with the columns that are required and the statements that may be used. -/
structure Request where
  table : String
  required : List Column
  createTemplates : List Template
  addColumnTemplates : List Template
  /-- The metric table that the table belongs to. -/
  metricTable : String
  /-- The tag table, if tags have one. -/
  tagTable : Option String
  deriving Inhabited

/-- The comment on columns that hold tags. -/
def tagComment : String := "tag"

namespace Reconciliation

variable {σ : Type} [Store σ]

/-! ## Calls of the store -/

/-- A call that may take as long as a limit. A call that would take longer is given up at
the limit and has no effect. -/
def bounded {α : Type} (limit : Duration) (call : σ → Except StoreError α × σ) :
    Reconciliation σ α := fun w =>
  if limit < Store.latency w.store then
    (.error (.store (.timeout limit)), { w with elapsed := w.elapsed + limit })
  else
    let (answer, store) := call w.store
    (answer.mapError .store, { w with store, elapsed := w.elapsed + Store.latency w.store })

/-- Changes what is known of the table. -/
def setDefinition (f : Definition → Definition) : Reconciliation σ PUnit :=
  modify fun w => { w with definition := f w.definition }

def known : Reconciliation σ Definition := return (← get).definition

/-- The outcome of a computation, so that its failure can be looked at. -/
def attempt {α : Type} (r : Reconciliation σ α) : Reconciliation σ (Except SchemaError α) :=
  fun w =>
    let (result, w) := r w
    (.ok result, w)

end Reconciliation

/-- What a stored column is for: fixed columns are known by name, tags by their comment. -/
def StoredColumn.role (o : Options) (c : StoredColumn) : Role :=
  if c.name = o.timeColumn.name then .time
  else if c.name = o.tagIdColumn.name then .tagId
  else if o.tagsAsJson ∧ c.name = tagsJsonName then .tag
  else if o.fieldsAsJson ∧ c.name = fieldsJsonName then .field
  else if (c.comment.bind fun text => (Text.words text.toList).head?) = some tagComment.toList then
    .tag
  else .field

def StoredColumn.toColumn (o : Options) (c : StoredColumn) : Column :=
  ⟨c.name, c.role o, SqlType.parse c.type⟩

/-- The definition of a table that a store reports. -/
def Definition.ofStored (o : Options) (stored : Option (List StoredColumn)) : Definition :=
  Definition.unknown.insertAll ((stored.getD []).map (StoredColumn.toColumn o))

namespace Request

open Reconciliation

variable {σ : Type} [Store σ] (o : Options)

/-! ## Single steps -/

/-- Asks the store for the columns of the table. -/
def refresh (r : Request) : Reconciliation σ PUnit := do
  let stored ← bounded o.statementTimeout (Store.columns o.namespaceName r.table)
  setDefinition fun _ => .ofStored o stored

/-- What templates are rendered with. -/
def context (r : Request) (columns allColumns : List Column) : Template.Context where
  namespaceName := o.namespaceName
  table := r.table
  metricTable := r.metricTable
  tagTable := r.tagTable
  columns := columns
  allColumns := allColumns

/-- Renders a template and runs its statement. -/
def runTemplate (c : Template.Context) (t : Template) : Reconciliation σ PUnit := do
  match t.render c with
  | .error fault => throw (.template t.source fault)
  | .ok sql => bounded o.statementTimeout (Store.execute sql)

def markTags (r : Request) (columns : List Column) : Reconciliation σ PUnit :=
  (columns.filter fun c => c.role == .tag).forM fun c =>
    bounded o.statementTimeout (Store.comment o.namespaceName r.table c.name tagComment)

/-- Runs statements for some columns and marks the tags among them. -/
def carryOut (r : Request) (templates : List Template) (columns allColumns : List Column) :
    Reconciliation σ PUnit := do
  templates.forM (runTemplate o (r.context o columns allColumns))
  r.markTags o columns

/-- Creates the table. If that fails nothing is known of it. -/
def createTable (r : Request) (columns : List Column) : Reconciliation σ PUnit := do
  match ← attempt (r.carryOut o r.createTemplates columns columns) with
  | .ok () => setDefinition (·.insertAll columns)
  | .error e =>
    setDefinition fun _ => .unknown
    throw e

/-- Adds a column. -/
def addColumn (r : Request) (c : Column) : Reconciliation σ PUnit := do
  let d ← known
  r.carryOut o r.addColumnTemplates [c] (Column.sort (d.columns ++ [c]))
  setDefinition (·.insert c)

/-! ## The table exists -/

/-- Adds a column and says whether the table has it now. A failure that may go away by
itself is passed on. -/
def tryAddColumn (r : Request) (c : Column) : Reconciliation σ Bool := do
  match ← attempt (r.addColumn o c) with
  | .ok () => return true
  | .error e =>
    if e.isDuplicateObject then
      r.refresh o
      return ((← known).find? c.name).any fun existing => existing.holds c
    else if e.isTemporary then throw e
    else return false

/-- Adds columns and gives those that the table does not have afterwards. -/
def addColumns (r : Request) : List Column → Reconciliation σ (List Column)
  | [] => return []
  | c :: cs => do
    let added ← r.tryAddColumn o c
    let rest ← r.addColumns cs
    return if added then rest else c :: rest

/-- Adds what an existing table lacks and gives what it lacks still. If anything could
not be added, what is known of the table is forgotten. -/
def extend (r : Request) (g : Gap) : Reconciliation σ (List Column) := do
  if g.addable.isEmpty then return Column.sort g.missing
  if r.addColumnTemplates.isEmpty then return Column.sort (g.missing ++ g.addable)
  let failed ← r.addColumns o g.addable
  if !failed.isEmpty then setDefinition fun _ => .unknown
  return Column.sort (g.missing ++ failed)

/-! ## The table does not exist -/

/-- Creates the table with what may be added, and gives what it lacks. If another writer
came first, the rest is added to the table of that writer. -/
def create (r : Request) (required : List Column) (g : Gap) : Reconciliation σ (List Column) := do
  match ← attempt (r.createTable o g.addable) with
  | .ok () => return Column.sort g.missing
  | .error e =>
    if e.isDuplicateObject then
      r.refresh o
      let d ← known
      if d.isKnown then
        r.extend o
          { addable := d.absent g.addable, missing := g.missing ++ d.conflicts g.addable }
      else return required
    else if e.isTemporary then throw e
    else return required

/-! ## All together -/

/-- The missing columns, if what is known leaves nothing to ask the store for. -/
def settled? (r : Request) (required : List Column) (d : Definition) : Option (List Column) :=
  let g := d.gap o.identifierMaxBytes required
  if d.isKnown && (g.addable.isEmpty || r.addColumnTemplates.isEmpty) then
    some (Column.sort (g.missing ++ g.addable))
  else none

/-- Brings the table in step after the store was asked. -/
def change (r : Request) (required : List Column) : Reconciliation σ (List Column) := do
  let d ← known
  let g := d.gap o.identifierMaxBytes required
  if d.isKnown then r.extend o g
  else if r.createTemplates.isEmpty then return required
  else if !Identifier.fits o.identifierMaxBytes r.table then
    throw (.tableNameTooLong r.table o.identifierMaxBytes)
  else if g.addable.isEmpty then return Column.sort g.missing
  else r.create o required g

/-- Brings the table in step with what is required and gives, in table order, the columns
that the table cannot have. -/
def ensure (r : Request) : Reconciliation σ (List Column) := do
  let required := Column.sort r.required
  match r.settled? o required (← known) with
  | some missing => return missing
  | none =>
    r.refresh o
    r.change o required

end Request

end MetricTables
