import MetricTables.Proofs.Matching

/-!
# Stores that behave alike

If every call of two stores gives the same answer, so does everything that is built from calls.
A shared store in which nobody takes a turn is a store in memory in this sense, so that what
holds beside other users holds for the store in memory by itself.

## Main definitions

* `Matching.Abreast` — what two runs of matching work on.
* `Mirror` — a relation between stores that calls keep.

## Main statements

* `Matching.agree_matchBatch` — two runs of matching agree if they do so on each table.
* `Mirror.agree_ensure`, `Mirror.agree_matchBatch` — bringing a table in step, and matching a
  batch, on stores that are alike.
* `SharedStore.mirror` — a shared store without turns is like the store in memory.
-/

namespace MetricTables

open Reconciliation

/-! ## Matching in two runs -/

namespace Matching

variable {σ τ : Type} [Store σ] [Store τ] {o : Options} {R : Manager σ → Manager τ → Prop}
  {K : TableBatch → Prop}

/-- The same batch, of some kind, and managers that are related. -/
structure Abreast (R : Manager σ → Manager τ → Prop) (K : TableBatch → Prop) (w : Work σ)
    (v : Work τ) : Prop where
  manager : R w.manager v.manager
  batch : w.batch = v.batch
  kind : K w.batch

/-- Bringing a table in step gives the same result in both runs. -/
def EnsuresAlike (R : Manager σ → Manager τ → Prop) (o : Options) (r : Request) : Prop :=
  ∀ m m', R m m' → (m.ensure o r).1 = (m'.ensure o r).1 ∧ R (m.ensure o r).2 (m'.ensure o r).2

variable (hK : ∀ {b c b'}, K b → b.dropColumn o c = .ok b' → K b')
include hK

omit [Store σ] [Store τ] in
theorem agree_dropColumn (c : Column) : Agree (Abreast R K) (dropColumn o c) (dropColumn o c) := by
  intro w v h
  rw [run_dropColumn, run_dropColumn, ← h.batch]
  cases hdrop : w.batch.dropColumn o c with
  | ok b => exact ⟨rfl, h.manager, rfl, hK h.kind hdrop⟩
  | error e => exact ⟨rfl, h⟩

/-- Two runs that bring tables in step alike give up the same columns. -/
theorem agree_matchTable {request : TableBatch → Request}
    (hensure : ∀ b, K b → EnsuresAlike R o (request b)) :
    Agree (Abreast R K) (matchTable o request) (matchTable o request) := by
  intro w v h
  have hfirst : Agree (Abreast R K) (ensure o (request w.batch)) (ensure o (request v.batch)) := by
    intro w' v' h'
    rw [← h.batch]
    obtain ⟨hanswer, hmanager⟩ := hensure w.batch h.kind _ _ h'.manager
    exact ⟨hanswer, hmanager, h'.batch, h'.kind⟩
  rw [matchTable_eq, matchTable_eq]
  exact (hfirst.bind fun missing => (Agree.forM fun c _ => agree_dropColumn hK c).bind fun _ =>
    .pure missing) w v h

/-- Matching a batch gives the same result in both runs if each of its tables does. -/
theorem agree_matchBatch
    (htag : ∀ b b' tagTable, K b → K b' → tagTable? o b = some tagTable →
      EnsuresAlike R o (tagRequest o b' tagTable))
    (hmetric : ∀ b, K b → EnsuresAlike R o (metricRequest o b)) :
    Agree (Abreast R K) (matchBatch o) (matchBatch o) := by
  intro w v h
  have hfirst : Agree (Abreast R K) (matchTagTable o w.batch) (matchTagTable o w.batch) := by
    unfold matchTagTable
    cases htable : tagTable? o w.batch with
    | none => exact .pure []
    | some tagTable =>
      exact agree_matchTable hK fun b hb => htag _ b _ h.kind hb htable
  rw [run_matchBatch, run_matchBatch, ← h.batch]
  exact (hfirst.bind fun _ => (agree_matchTable hK hmetric).bind fun _ => .pure _) w v h

end Matching

/-! ## Stores that are alike -/

/-- A relation between stores: calls give the same answers, and keep it. -/
structure Mirror (σ τ : Type) [Store σ] [Store τ] where
  Alike : σ → τ → Prop
  latency : ∀ {s t}, Alike s t → Store.latency s = Store.latency t
  columns : ∀ {s t} n table, Alike s t →
    (Store.columns n table s).1 = (Store.columns n table t).1 ∧
      Alike (Store.columns n table s).2 (Store.columns n table t).2
  execute : ∀ {s t} sql, Alike s t →
    (Store.execute sql s).1 = (Store.execute sql t).1 ∧
      Alike (Store.execute sql s).2 (Store.execute sql t).2
  comment : ∀ {s t} n table column text, Alike s t →
    (Store.comment n table column text s).1 = (Store.comment n table column text t).1 ∧
      Alike (Store.comment n table column text s).2 (Store.comment n table column text t).2

namespace Mirror

variable {σ τ : Type} [Store σ] [Store τ] (M : Mirror σ τ)

/-- Workspaces with the same clock and definition, on stores that are alike. -/
structure Workspaces (w : Workspace σ) (v : Workspace τ) : Prop where
  store : M.Alike w.store v.store
  elapsed : w.elapsed = v.elapsed
  definition : w.definition = v.definition

theorem agree_setDefinition (f : Definition → Definition) :
    Agree M.Workspaces (setDefinition f) (setDefinition f) :=
  fun _ _ h => ⟨rfl, h.store, h.elapsed, congrArg f h.definition⟩

theorem agree_bounded {α : Type} {limit : Duration} {call : σ → Except StoreError α × σ}
    {call' : τ → Except StoreError α × τ}
    (h : ∀ {s t}, M.Alike s t → (call s).1 = (call' t).1 ∧ M.Alike (call s).2 (call' t).2) :
    Agree M.Workspaces (bounded limit call) (bounded limit call') := by
  intro w v hw
  have hlatency := M.latency hw.store
  obtain ⟨hanswer, halike⟩ := h hw.store
  unfold bounded
  rw [← hlatency]
  split
  · exact ⟨rfl, hw.store, congrArg (· + limit) hw.elapsed, hw.definition⟩
  · exact ⟨congrArg (Except.mapError SchemaError.store) hanswer, halike,
      congrArg (· + Store.latency w.store) hw.elapsed, hw.definition⟩

/-- Every call of a request is the same in both runs. -/
theorem agrees (o : Options) (r : Request) : r.Agrees M.Workspaces o := by
  have hcarryOut : ∀ templates cs allColumns,
      Agree M.Workspaces (r.carryOut o templates cs allColumns)
        (r.carryOut o templates cs allColumns) := fun _ _ _ =>
    Request.agree_carryOut
      (fun _ _ => Request.agree_runTemplate fun sql _ => M.agree_bounded (M.execute sql))
      fun _ => M.agree_bounded (M.comment _ _ _ _)
  exact ⟨fun h => h.definition, M.agree_setDefinition, M.agree_bounded (M.columns _ _),
    fun _ _ => hcarryOut _ _ _, fun _ _ _ => hcarryOut _ _ _⟩

/-- Bringing a table in step gives the same result, and leaves stores that are alike. -/
theorem agree_ensure (o : Options) (r : Request) : Agree M.Workspaces (r.ensure o) (r.ensure o) :=
  Request.agree_ensure (M.agrees o r)

/-! ## Managers -/

/-- Managers with the same clock and cache, on stores that are alike. -/
structure Managers (m : Manager σ) (m' : Manager τ) : Prop where
  store : M.Alike m.store m'.store
  elapsed : m.elapsed = m'.elapsed
  cache : m.cache = m'.cache

/-- On stores that answer alike, a request gives one result and leaves managers that are alike. -/
theorem ensure_managers (o : Options) (r : Request) {m : Manager σ} {m' : Manager τ}
    (h : M.Managers m m') :
    (m.ensure o r).1 = (m'.ensure o r).1 ∧ M.Managers (m.ensure o r).2 (m'.ensure o r).2 := by
  obtain ⟨hanswer, hw⟩ := M.agree_ensure o r
    { store := m.store, elapsed := m.elapsed, definition := m.cache.definition r.table }
    { store := m'.store, elapsed := m'.elapsed, definition := m'.cache.definition r.table }
    ⟨h.store, h.elapsed, by rw [h.cache]⟩
  refine ⟨hanswer, hw.store, hw.elapsed, ?_⟩
  exact congr (congrFun (congrArg Cache.put h.cache) r.table) hw.definition

/-- Matching a batch gives the same result, and leaves stores that are alike. -/
theorem agree_matchBatch (o : Options) :
    Agree (Matching.Abreast M.Managers fun _ => True) (Matching.matchBatch o)
      (Matching.matchBatch o) :=
  Matching.agree_matchBatch (fun _ _ => trivial) (fun _ _ _ _ _ _ _ _ => M.ensure_managers o _)
    fun _ _ _ _ => M.ensure_managers o _

end Mirror

/-! ## Shared stores without turns -/

theorem SharedStore.call_of_turns_nil {α : Type} {s : SharedStore} (h : s.turns = [])
    (f : MemoryStore → Except StoreError α × MemoryStore) :
    (s.takeTurn.call f).1 = (f s.memory).1 ∧ (s.takeTurn.call f).2.turns = [] ∧
      (s.takeTurn.call f).2.memory = (f s.memory).2 := by
  have hturn : s.takeTurn = s := by rw [takeTurn, h]
  rw [hturn]
  exact ⟨rfl, h, rfl⟩

/-- A shared store in which nobody takes a turn is like the store in memory. -/
def SharedStore.mirror : Mirror SharedStore MemoryStore where
  Alike s m := s.turns = [] ∧ s.memory = m
  latency := by
    rintro s _ ⟨_, rfl⟩
    rfl
  columns := by
    rintro s _ n table ⟨hturns, rfl⟩
    exact call_of_turns_nil hturns (Store.columns n table)
  execute := by
    rintro s _ sql ⟨hturns, rfl⟩
    have hturn : s.takeTurn = s := by rw [takeTurn, hturns]
    obtain ⟨hanswer, hmemory⟩ := execute_of_turns_nil hturns sql
    refine ⟨hanswer, ?_, hmemory⟩
    show (execute sql s).2.turns = []
    rw [execute, hturn]
    split
    · exact hturns
    · exact hturns
  comment := by
    rintro s _ n table column text ⟨hturns, rfl⟩
    exact call_of_turns_nil hturns (Store.comment n table column text)

end MetricTables
