import MetricTables.Proofs.Reconcile.Ensure

/-!
# Runs that agree

Two runs of one request give the same result if their calls do. It is enough to know that of the
calls that a request can make, and of runs from states that are related in some way that these
calls keep: stores that are alike as a whole, or only where the request looks, or one store
and how it was before.

## Main definitions

* `Agree` — two computations give the same result from related states, and keep the relation.
* `Request.Creates`, `Request.Adds` — what a request does at once.
* `Request.Agrees` — what a request does at once gives the same result in both runs.

## Main statements

* `Request.agree_ensure` — bringing a table in step gives the same result in both runs.
-/

namespace MetricTables

open Reconciliation

/-! ## Computations -/

/-- Two computations give the same result from states that are alike, and leave such states. -/
def Agree {S T ε α : Type} (R : S → T → Prop) (x : ExceptT ε (StateM S) α)
    (y : ExceptT ε (StateM T) α) : Prop :=
  ∀ s t, R s t → (x s).1 = (y t).1 ∧ R (x s).2 (y t).2

namespace Agree

variable {S T ε α β : Type} {R : S → T → Prop} {x : ExceptT ε (StateM S) α}
  {y : ExceptT ε (StateM T) α} {f : α → ExceptT ε (StateM S) β} {g : α → ExceptT ε (StateM T) β}

theorem pure (a : α) : Agree R (Pure.pure a : ExceptT ε (StateM S) α)
    (Pure.pure a : ExceptT ε (StateM T) α) := fun _ _ h => ⟨rfl, h⟩

theorem throw (e : ε) : Agree R (throw e : ExceptT ε (StateM S) α)
    (throw e : ExceptT ε (StateM T) α) := fun _ _ h => ⟨rfl, h⟩

/-- Two computations agree step by step. The second step may rely on one result for both. -/
theorem bind (hx : Agree R x y) (hf : ∀ a, Agree R (f a) (g a)) :
    Agree R (x >>= f) (y >>= g) := by
  intro s t h
  obtain ⟨hanswer, halike⟩ := hx s t h
  rcases hrun : x s with ⟨answer, s₁⟩
  rcases hrun' : y t with ⟨answer', t₁⟩
  rw [hrun, hrun'] at hanswer halike
  obtain rfl : answer = answer' := hanswer
  cases answer with
  | error e =>
    rw [run_bind_of_error hrun, run_bind_of_error hrun']
    exact ⟨rfl, halike⟩
  | ok a =>
    rw [run_bind_of_ok hrun, run_bind_of_ok hrun']
    exact hf a s₁ t₁ halike

theorem forM {γ : Type} {f : γ → ExceptT ε (StateM S) PUnit} {g : γ → ExceptT ε (StateM T) PUnit}
    {cs : List γ} (h : ∀ c ∈ cs, Agree R (f c) (g c)) : Agree R (cs.forM f) (cs.forM g) := by
  induction cs with
  | nil => exact pure _
  | cons c cs ih =>
    exact bind (h c List.mem_cons_self) fun _ => ih fun d hd => h d (List.mem_cons_of_mem _ hd)

theorem attempt {σ τ : Type} {R : Workspace σ → Workspace τ → Prop} {x : Reconciliation σ α}
    {y : Reconciliation τ α} (h : Agree R x y) :
    Agree R (Reconciliation.attempt x) (Reconciliation.attempt y) :=
  fun w v hw => ⟨congrArg Except.ok (h w v hw).1, (h w v hw).2⟩

end Agree

namespace Request

variable {σ τ : Type} [Store σ] [Store τ] {o : Options} {r : Request}

/-! ## What a request does at once -/

/-- Columns that a table is created with: all that are required and have names that fit, and
the name of the table fits. -/
structure Creates (o : Options) (r : Request) (cs : List Column) : Prop where
  perm : cs.Perm (r.required.filter fun c => Identifier.fits o.identifierMaxBytes c.name)
  nonempty : cs ≠ []
  table : Identifier.fits o.identifierMaxBytes r.table = true

/-- A column that is added: it is required, and its name fits. -/
structure Adds (o : Options) (r : Request) (c : Column) : Prop where
  required : c ∈ r.required
  fits : Identifier.fits o.identifierMaxBytes c.name = true

theorem Creates.adds {cs : List Column} (h : r.Creates o cs) {c : Column} (hc : c ∈ cs) :
    r.Adds o c := by
  obtain ⟨hc, hfits⟩ := List.mem_filter.1 (h.perm.subset hc)
  exact ⟨hc, hfits⟩

/-- If nothing is known, all that is required may be added if it fits. -/
theorem gap_of_not_isKnown {d : Definition} (h : d.isKnown = false) (required : List Column) :
    d.gap o.identifierMaxBytes required =
      { addable := required.filter fun c => Identifier.fits o.identifierMaxBytes c.name
        missing := required.filter fun c => !Identifier.fits o.identifierMaxBytes c.name } := by
  have hfind : ∀ name, d.find? name = none := by
    intro name
    have hempty : d.byName.entries = [] := by
      simpa [Definition.isKnown, KeyMap.isEmpty] using h
    rw [Definition.find?, KeyMap.find?, hempty]
    rfl
  have habsent : d.absent required = required :=
    List.filter_eq_self.2 fun c _ => by rw [hfind]; rfl
  have hconflicts : d.conflicts required = [] :=
    List.filter_eq_nil_iff.2 fun c _ => by rw [hfind]; simp
  rw [Definition.gap, habsent, hconflicts, List.nil_append]

/-- What a request does at once gives the same result in both runs: questions, creations and
additions, with their comments. What is known of the table is the same in both. -/
structure Agrees (R : Workspace σ → Workspace τ → Prop) (o : Options) (r : Request) : Prop where
  definition : ∀ {w v}, R w v → w.definition = v.definition
  setDefinition : ∀ f, Agree R (setDefinition f) (setDefinition f)
  columns : Agree R (bounded o.statementTimeout (Store.columns o.namespaceName r.table))
    (bounded o.statementTimeout (Store.columns o.namespaceName r.table))
  create : ∀ cs, r.Creates o cs →
    Agree R (r.carryOut o r.createTemplates cs cs) (r.carryOut o r.createTemplates cs cs)
  add : ∀ c, r.Adds o c → ∀ allColumns,
    Agree R (r.carryOut o r.addColumnTemplates [c] allColumns)
      (r.carryOut o r.addColumnTemplates [c] allColumns)

section Calls

variable {R : Workspace σ → Workspace τ → Prop}

/-- A template that is rendered in both runs is one call in both. -/
theorem agree_runTemplate {c : Template.Context} {template : Template}
    (h : ∀ sql, template.render c = .ok sql →
      Agree R (bounded o.statementTimeout (Store.execute sql))
        (bounded o.statementTimeout (Store.execute sql))) :
    Agree R (runTemplate o c template) (runTemplate o c template) := by
  unfold runTemplate
  cases hrender : template.render c with
  | error fault => exact .throw _
  | ok sql => exact h sql hrender

/-- Only the rendered statements and the marks on tags reach the store. -/
theorem agree_carryOut {templates : List Template} {cs allColumns : List Column}
    (hrun : ∀ template ∈ templates,
      Agree R (runTemplate o (r.context o cs allColumns) template)
        (runTemplate o (r.context o cs allColumns) template))
    (hcomment : ∀ name,
      Agree R (bounded o.statementTimeout (Store.comment o.namespaceName r.table name tagComment))
        (bounded o.statementTimeout (Store.comment o.namespaceName r.table name tagComment))) :
    Agree R (r.carryOut o templates cs allColumns) (r.carryOut o templates cs allColumns) :=
  (Agree.forM hrun).bind fun _ => .forM fun c _ => hcomment c.name

end Calls

/-! ## Bringing a table in step -/

section Agrees

variable {R : Workspace σ → Workspace τ → Prop} (hr : r.Agrees R o)
include hr

theorem agree_known : Agree R known known := fun _ _ h => ⟨congrArg Except.ok (hr.definition h), h⟩

theorem agree_refresh : Agree R (r.refresh o) (r.refresh o) :=
  hr.columns.bind fun _ => hr.setDefinition _

theorem agree_createTable {cs : List Column} (hcs : r.Creates o cs) :
    Agree R (r.createTable o cs) (r.createTable o cs) := by
  refine (hr.create cs hcs).attempt.bind fun answer => ?_
  cases answer with
  | ok _ => exact hr.setDefinition _
  | error e => exact (hr.setDefinition _).bind fun _ => .throw e

theorem agree_tryAddColumn {c : Column} (hc : r.Adds o c) :
    Agree R (r.tryAddColumn o c) (r.tryAddColumn o c) := by
  have hadd : Agree R (r.addColumn o c) (r.addColumn o c) :=
    (agree_known hr).bind fun _ => (hr.add c hc _).bind fun _ => hr.setDefinition _
  refine hadd.attempt.bind fun answer => ?_
  cases answer with
  | ok _ => exact .pure true
  | error e =>
    dsimp only
    split
    · exact (agree_refresh hr).bind fun _ => (agree_known hr).bind fun _ => .pure _
    · split
      · exact .throw e
      · exact .pure false

theorem agree_addColumns {cs : List Column} (hcs : ∀ c ∈ cs, r.Adds o c) :
    Agree R (r.addColumns o cs) (r.addColumns o cs) := by
  induction cs with
  | nil => exact .pure []
  | cons c cs ih =>
    have hrest := ih fun d hd => hcs d (List.mem_cons_of_mem _ hd)
    exact (agree_tryAddColumn hr (hcs c List.mem_cons_self)).bind fun _ =>
      hrest.bind fun _ => .pure _

theorem agree_extend {g : Gap} (hg : ∀ c ∈ g.addable, r.Adds o c) :
    Agree R (r.extend o g) (r.extend o g) := by
  unfold extend
  split
  · exact .pure _
  · split
    · exact .pure _
    · refine (agree_addColumns hr hg).bind fun failed => ?_
      dsimp only
      split
      · exact (hr.setDefinition _).bind fun _ => .pure _
      · exact .pure _

theorem agree_create {required : List Column} {g : Gap} (hg : r.Creates o g.addable) :
    Agree R (r.create o required g) (r.create o required g) := by
  refine (agree_createTable hr hg).attempt.bind fun answer => ?_
  cases answer with
  | ok _ => exact .pure _
  | error e =>
    dsimp only
    split
    · refine (agree_refresh hr).bind fun _ => (agree_known hr).bind fun d => ?_
      split
      · exact agree_extend hr fun c hc => hg.adds (Definition.mem_absent.1 hc).1
      · exact .pure _
    · split
      · exact .throw e
      · exact .pure _

/-- Bringing a table in step agrees in two runs if what it adds and what it creates does. -/
theorem agree_change {required : List Column} (hrequired : required.Perm r.required) :
    Agree R (r.change o required) (r.change o required) := by
  refine (agree_known hr).bind fun d => ?_
  dsimp only
  split
  · refine agree_extend hr fun c hc => ?_
    obtain ⟨hc, hfits, _⟩ := mem_gap_addable hrequired hc
    exact ⟨hc, hfits⟩
  next hunknown =>
    split
    · exact .pure _
    · split
      · exact .throw _
      next htable =>
        split
        · exact .pure _
        next hempty =>
          refine agree_create hr ⟨?_, by simpa using hempty, by simpa using htable⟩
          rw [gap_of_not_isKnown (by simpa using hunknown)]
          exact hrequired.filter _

/-- Bringing a table in step gives the same result in both runs, and keeps what relates them. -/
theorem agree_ensure : Agree R (r.ensure o) (r.ensure o) := by
  refine (agree_known hr).bind fun d => ?_
  split
  · exact .pure _
  · exact (agree_refresh hr).bind fun _ => agree_change hr (Column.sort_perm _)

end Agrees

end Request

end MetricTables
