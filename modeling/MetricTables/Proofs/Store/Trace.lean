import MetricTables.Proofs.Mirror

/-!
# Stores with a trace

A store that writes down the calls that reach it, each with the states before and after it.
A call that is given up before it begins reaches no store.

## Main definitions

* `StoreCall`, `Step` — a call, and what it did.
* `Traced` — a store with the steps that it took.

## Main statements

* `Traced.mirror` — the trace changes nothing about the store.
-/

namespace MetricTables

/-- A call of a store. -/
inductive StoreCall where
  | columns (namespaceName table : String)
  | execute (sql : String)
  | comment (namespaceName table column text : String)
  deriving DecidableEq, Repr

/-- A call that reached a store, with the states of the store around it. -/
structure Step (σ : Type) where
  call : StoreCall
  before : σ
  after : σ

/-- A store with the steps that it took, oldest first. -/
structure Traced (σ : Type) where
  store : σ
  steps : List (Step σ) := []

namespace Traced

variable {σ α : Type}

def call (c : StoreCall) (f : σ → Except StoreError α × σ) (s : Traced σ) :
    Except StoreError α × Traced σ :=
  let (answer, store) := f s.store
  (answer, { store, steps := s.steps ++ [⟨c, s.store, store⟩] })

def calls (s : Traced σ) : List StoreCall := s.steps.map Step.call

variable [Store σ]

instance : Store (Traced σ) where
  kind := Store.kind σ
  latency s := Store.latency s.store
  columns namespaceName table :=
    call (.columns namespaceName table) (Store.columns namespaceName table)
  execute sql := call (.execute sql) (Store.execute sql)
  comment namespaceName table column text :=
    call (.comment namespaceName table column text) (Store.comment namespaceName table column text)

/-- The trace changes nothing about the store. -/
def mirror : Mirror (Traced σ) σ where
  Alike s t := s.store = t
  latency := by
    rintro s _ rfl
    rfl
  columns := by
    rintro s _ n table rfl
    exact ⟨rfl, rfl⟩
  execute := by
    rintro s _ sql rfl
    exact ⟨rfl, rfl⟩
  comment := by
    rintro s _ n table column text rfl
    exact ⟨rfl, rfl⟩

end Traced

end MetricTables
