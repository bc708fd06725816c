import MetricTables.Batch
import MetricTables.Reconcile

/-!
# Matching

Makes a store able to hold a batch, and gives up what it cannot hold. If tags are kept by
key the tag table comes first, so that records whose tags cannot be stored are gone
before their metric table is looked at. Failures that may go away by themselves are
tried again, each time after a longer pause.

## Main definitions

* `Manager` — a store, a clock and what is known of all tables.
* `Outcome` — the columns that a batch lost.
* `Matching.matchBatch` — matches a batch once.
* `retry` — repeats a computation that failed.
-/

namespace MetricTables

/-- What matching works on, the batch aside. -/
structure Manager (σ : Type) where
  store : σ
  elapsed : Duration := .zero
  cache : Cache := {}
  deriving Inhabited

/-- The columns that a batch lost. -/
structure Outcome where
  tagTableMissing : List Column := []
  metricTableMissing : List Column := []
  deriving DecidableEq, Repr, Inhabited

/-- Whether a batch lost nothing. -/
def Outcome.isComplete (x : Outcome) : Bool :=
  x.tagTableMissing.isEmpty && x.metricTableMissing.isEmpty

namespace Manager

variable {σ : Type} [Store σ] (o : Options)

/-- Brings a table in step and keeps what is known of it then. -/
def ensure (r : Request) (m : Manager σ) : Except SchemaError (List Column) × Manager σ :=
  let (result, w) := (r.ensure o).run
    { store := m.store, elapsed := m.elapsed, definition := m.cache.definition r.table }
  (result, { store := w.store, elapsed := w.elapsed, cache := m.cache.put r.table w.definition })

end Manager

/-- What matching of a batch works on. -/
structure Work (σ : Type) where
  manager : Manager σ
  batch : TableBatch
  deriving Inhabited

/-- Computations on a manager and a batch. What they did stays done if they fail. -/
abbrev Matching (σ : Type) := ExceptT SchemaError (StateM (Work σ))

namespace Matching

variable {σ : Type} [Store σ] (o : Options)

/-- Brings a table in step. -/
def ensure (r : Request) : Matching σ (List Column) := fun w =>
  let (result, manager) := w.manager.ensure o r
  (result, { w with manager })

def dropColumn (c : Column) : Matching σ PUnit := do
  match (← get).batch.dropColumn o c with
  | .ok batch => modify fun w => { w with batch }
  | .error e => throw e

/-- The tag table of the batch, if tags are kept by key. -/
def tagTable? (b : TableBatch) : Option String :=
  if o.tagsAsForeignKeys then some (o.tagTableName b.name) else none

def tagRequest (b : TableBatch) (tagTable : String) : Request where
  table := tagTable
  required := b.tagTableColumns o
  createTemplates := o.tagTableCreateTemplates
  addColumnTemplates := o.tagTableAddColumnTemplates
  metricTable := b.name
  tagTable := some tagTable

def metricRequest (b : TableBatch) : Request where
  table := b.name
  required := b.metricColumns o
  createTemplates := o.createTemplates
  addColumnTemplates := o.addColumnTemplates
  metricTable := b.name
  tagTable := tagTable? o b

/-- Brings one table of the batch in step and gives up what it cannot have. -/
def matchTable (request : TableBatch → Request) : Matching σ (List Column) := do
  let missing ← ensure o (request (← get).batch)
  missing.forM (dropColumn o)
  return missing

/-- Makes the store able to hold the batch. -/
def matchBatch : Matching σ Outcome := do
  let tagTableMissing ← match tagTable? o (← get).batch with
    | none => pure []
    | some tagTable => matchTable o fun b => tagRequest o b tagTable
  let metricTableMissing ← matchTable o (metricRequest o)
  return { tagTableMissing, metricTableMissing }

end Matching

/-! ## Trying again -/

def firstPause : Duration := .ofMillis 200

/-- The pause before a retry, counted from zero: twice as long each time, up to the
seventh. -/
def pause (attempt : Nat) : Duration := firstPause.times (Nat.pow 2 (min attempt 6))

/-- Repeats a computation while it fails in a way that may go away and a retry is left.
Gives its last result and the pauses that were made. -/
def retry {τ α : Type} (act : τ → Except SchemaError α × τ) (attempt : Nat) :
    Nat → τ → (Except SchemaError α × τ) × List Duration
  | 0, t => (act t, [])
  | left + 1, t =>
    match act t with
    | (.error e, t') =>
      if e.isTemporary then
        let (result, pauses) := retry act (attempt + 1) left t'
        (result, pause attempt :: pauses)
      else ((.error e, t'), [])
    | done => (done, [])

/-- Matches a batch and tries again as often as allowed. -/
def matchWithRetry {σ : Type} [Store σ] (o : Options) (retries : Nat) (w : Work σ) :
    Except SchemaError Outcome × Work σ :=
  let ((result, w), pauses) := retry (Matching.matchBatch o).run 0 retries w
  let slept := pauses.foldl (· + ·) w.manager.elapsed
  (result, { w with manager := { w.manager with elapsed := slept } })

end MetricTables
