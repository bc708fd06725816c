import MetricTables.Proofs.Reconcile.Effect
import MetricTables.Proofs.Reconcile.Growth

/-!
# Steps on a quiet store

What the addition of columns does to tables, whatever the tables and the columns are: columns
that are there already, and types that are not spelled like types, included. On a quiet store
it is a function of the tables alone.

## Main definitions

* `Request.addSteps`, `Request.extendSteps` — what adding columns does to tables.
* `Reaches` — a computation gives an answer and leaves a quiet store with some tables.

## Main statements

* `addColumns_reaches` — columns are added step by step.
* `extend_reaches` — what extending a table comes to.
-/

namespace MetricTables

open Reconciliation

/-! ## What steps do to tables -/

namespace Request

variable (o : Options) (r : Request)

/-- What the mark on a column does to tables, if the column holds a tag. -/
def markStep (c : Column) (t : Catalog) : Except StoreError Unit × Catalog :=
  if c.role = .tag then
    match t.comment (r.place o) c.name tagComment with
    | .error e => (.error e, t)
    | .ok t => (.ok (), t)
  else (.ok (), t)

/-- What the statement that adds a column does to tables, with the mark behind it. -/
def addStep (c : Column) (t : Catalog) : Except StoreError Unit × Catalog :=
  match t.run (r.addition o c) with
  | .error e => (.error e, t)
  | .ok t => r.markStep o c t

/-- Whether a table has a column that can take the values of another one, after it could not be
added. -/
def heldAfter (c : Column) (e : StoreError) (t : Catalog) : Bool :=
  e.isDuplicateObject && ((Definition.ofStored o (t.find? (r.place o))).find? c.name).any
    fun existing => existing.holds c

/-- Whether a column is there once it was tried to add it, and the tables. -/
def tryStep (c : Column) (t : Catalog) : Bool × Catalog :=
  match r.addStep o c t with
  | (.ok (), t) => (true, t)
  | (.error e, t) => (r.heldAfter o c e t, t)

/-- The columns that are not there once all were tried, and the tables. -/
def addSteps : List Column → Catalog → List Column × Catalog
  | [], t => ([], t)
  | c :: cs, t =>
    let (added, t) := r.tryStep o c t
    let (failed, t) := addSteps cs t
    (if added then failed else c :: failed, t)

/-- The columns that are not there once a table was extended with them, and the tables. -/
def extendSteps (cs : List Column) (t : Catalog) : List Column × Catalog :=
  if r.addColumnTemplates.isEmpty then (cs, t) else r.addSteps o cs t

/-- A column without a mark that the table does not have is added behind the others. -/
theorem tryStep_new {c : Column} (htype : ∀ s, c.type ≠ .other s) (hrole : c.role ≠ .tag)
    {t : Catalog} {cols : List StoredColumn} (hfind : t.find? (r.place o) = some cols)
    (hnew : c.name ∉ cols.map StoredColumn.name) :
    r.tryStep o c t = (true, t.insert (r.place o) (cols ++ [c.stored])) := by
  have hplace : (r.context o [c] []).place = r.place o := rfl
  have hrun := Catalog.run_addColumn (t := t) (render_addition (o := o) (r := r) c []) rfl htype
  rw [hplace, hfind] at hrun
  simp only [Catalog.hasColumn_eq_false hnew, Bool.false_eq_true, if_false] at hrun
  simp [tryStep, addStep, hrun, markStep, hrole]

theorem extendSteps_nil (t : Catalog) : r.extendSteps o [] t = ([], t) := by
  simp [extendSteps, addSteps]

end Request

/-! ## Where computations lead -/

/-- A computation gives an answer, and leaves a quiet store with some tables. -/
def Reaches {α : Type} (o : Options) (x : Reconciliation MemoryStore α) (w : Workspace MemoryStore)
    (answer : Except SchemaError α) (t : Catalog) : Prop :=
  ∃ w', RunsTo x w answer w' ∧ w'.store.IsQuiet o ∧ w'.store.tables = t

namespace Reaches

variable {o : Options} {α β : Type} {x : Reconciliation MemoryStore α}
  {f : α → Reconciliation MemoryStore β} {w : Workspace MemoryStore} {t t' : Catalog}
  {answer : Except SchemaError β}

theorem pure (hw : w.store.IsQuiet o) (ht : w.store.tables = t) (a : α) :
    Reaches o (Pure.pure a) w (.ok a) t := ⟨w, .pure a w, hw, ht⟩

theorem throw (hw : w.store.IsQuiet o) (ht : w.store.tables = t) (e : SchemaError) :
    Reaches o (throw e : Reconciliation MemoryStore α) w (.error e) t := ⟨w, .throw e w, hw, ht⟩

theorem bind {a : α} (h : Reaches o x w (.ok a) t) (hf : ∀ w₁ : Workspace MemoryStore,
      w₁.store.IsQuiet o → w₁.store.tables = t → Reaches o (f a) w₁ answer t') :
    Reaches o (x >>= f) w answer t' := by
  obtain ⟨w₁, hrun, hw₁, ht₁⟩ := h
  obtain ⟨w', hrun', hw'⟩ := hf w₁ hw₁ ht₁
  exact ⟨w', hrun.bind hrun', hw'⟩

theorem bind_error {e : SchemaError} (h : Reaches o x w (.error e) t) :
    Reaches o (x >>= f) w (.error e) t := by
  obtain ⟨w', hrun, hw'⟩ := h
  exact ⟨w', hrun.bind_error, hw'⟩

theorem known_bind {f : Definition → Reconciliation MemoryStore β}
    (h : Reaches o (f w.definition) w answer t) : Reaches o (known >>= f) w answer t := h

theorem setDefinition (hw : w.store.IsQuiet o) (ht : w.store.tables = t)
    (f : Definition → Definition) : Reaches o (setDefinition f) w (.ok ⟨⟩) t :=
  ⟨_, .setDefinition f w, hw, ht⟩

theorem attempt_bind {outcome : Except SchemaError α}
    {f : Except SchemaError α → Reconciliation MemoryStore β} (h : Reaches o x w outcome t)
    (hf : ∀ w₁ : Workspace MemoryStore, w₁.store.IsQuiet o → w₁.store.tables = t →
      Reaches o (f outcome) w₁ answer t') : Reaches o (attempt x >>= f) w answer t' := by
  obtain ⟨w₁, hrun, hw₁, ht₁⟩ := h
  obtain ⟨w', hrun', hw'⟩ := hf w₁ hw₁ ht₁
  exact ⟨w', hrun.attempt_bind hrun', hw'⟩

end Reaches

namespace Request

variable {o : Options} {r : Request} {w : Workspace MemoryStore} {t : Catalog}

/-- The store is asked, and what it says is known. -/
theorem refresh_bind_reaches {α : Type} {f : Definition → Reconciliation MemoryStore α}
    {answer : Except SchemaError α} {t' : Catalog} (hw : w.store.IsQuiet o)
    (hf : ∀ w₁ : Workspace MemoryStore, w₁.store.IsQuiet o → w₁.store.tables = w.store.tables →
      w₁.definition = .ofStored o (w.store.tables.find? (r.place o)) →
        Reaches o (f w₁.definition) w₁ answer t') :
    Reaches o (do r.refresh o; f (← known)) w answer t' := by
  obtain ⟨w', hrun, hw'⟩ := hf (r.asked o w) (hw.change _ _ _) rfl rfl
  exact ⟨w', .bind (refresh_runs hw.responds) hrun, hw'⟩

/-- A rejection is not a failure of the store, so a second look at the table decides. -/
theorem recheck_reaches (hw : w.store.IsQuiet o) (c : Column) {e : StoreError}
    (he : e.IsRejection) : Reaches o (r.recheck o c (.store e)) w
      (.ok (r.heldAfter o c e w.store.tables)) w.store.tables := by
  unfold recheck heldAfter
  split
  next hduplicate =>
    have hduplicate : e.isDuplicateObject = true := hduplicate
    refine refresh_bind_reaches hw fun w₁ hw₁ ht₁ hdefinition => ?_
    rw [hduplicate, Bool.true_and, ← hdefinition]
    exact .pure hw₁ ht₁ _
  next hduplicate =>
    have hduplicate : e.isDuplicateObject = false := eq_false_of_ne_true hduplicate
    have htemporary : SchemaError.isTemporary (.store e) = false :=
      he.isTemporary.trans hduplicate
    rw [if_neg (by simp [htemporary]), hduplicate, Bool.false_and]
    exact .pure hw rfl _

theorem markStep_rejects (c : Column) {e : StoreError} (h : (r.markStep o c t).1 = .error e) :
    e.IsRejection := by
  unfold markStep at h
  split at h
  · split at h
    next e' hcomment =>
      cases h
      exact t.comment_rejects _ _ _ e hcomment
    · cases h
  · cases h

theorem addStep_rejects (c : Column) {e : StoreError} (h : (r.addStep o c t).1 = .error e) :
    e.IsRejection := by
  unfold addStep at h
  split at h
  next e' hrun =>
    cases h
    exact t.run_rejects _ e hrun
  · exact markStep_rejects c h

/-- The mark on one column, as a step on the tables. -/
theorem markTags_reaches (hw : w.store.IsQuiet o) (c : Column) : Reaches o (r.markTags o [c]) w
    ((r.markStep o c w.store.tables).1.mapError .store) (r.markStep o c w.store.tables).2 := by
  unfold markTags markStep
  by_cases htag : c.role = .tag
  · rw [if_pos htag, List.filter_cons_of_pos (by simp [htag]), List.filter_nil]
    cases hcomment : w.store.tables.comment (r.place o) c.name tagComment with
    | error e =>
      have hcall := comment_runs hw (w.store.comment_quiet_error hw hcomment)
      exact .bind_error ⟨_, hcall, hw, rfl⟩
    | ok t =>
      have hcall := comment_runs hw (w.store.comment_quiet hw hcomment)
      exact .bind ⟨_, hcall, hw.change _ _ _, rfl⟩ fun w₁ hw₁ ht₁ => .pure hw₁ ht₁ _
  · rw [if_neg htag, List.filter_cons_of_neg (by simp [htag]), List.filter_nil]
    exact .pure hw rfl _

theorem addColumn_reaches (hw : w.store.IsQuiet o) (hadd : r.addColumnTemplates = [.addColumn])
    (c : Column) : Reaches o (r.addColumn o c) w
      ((r.addStep o c w.store.tables).1.mapError .store) (r.addStep o c w.store.tables).2 := by
  have hset {answer : Except StoreError Unit} {t : Catalog}
      {x : Reconciliation MemoryStore PUnit} (h : Reaches o x w (answer.mapError .store) t) :
      Reaches o (do x; setDefinition (·.insert c)) w (answer.mapError .store) t := by
    cases answer with
    | error e => exact .bind_error h
    | ok _ => exact .bind h fun w₁ hw₁ ht₁ => .setDefinition hw₁ ht₁ _
  unfold addColumn addStep
  rw [hadd]
  refine .known_bind (hset ?_)
  cases hrun : w.store.tables.run (r.addition o c) with
  | error e => exact ⟨w, carryOut_runs_error hw (render_addition c _) hrun, hw, rfl⟩
  | ok t =>
    have hrender := render_addition (o := o) (r := r) c (Column.sort (w.definition.columns ++ [c]))
    have hstatement := runTemplate_runs hw hrender (w.store.runText_ok hrun)
    have hmarks := markTags_reaches (o := o) (r := r)
      (w := { w with store := { w.store with
        tables := t, executed := w.store.executed ++ [r.addition o c] } }) (hw.change _ _ _) c
    obtain ⟨w', hrun', hw'⟩ := hmarks
    exact ⟨w', .bind (.bind hstatement (.pure _ _)) hrun', hw'⟩

/-- The attempt at one column, as a step on the tables. -/
theorem tryAddColumn_reaches (hw : w.store.IsQuiet o)
    (hadd : r.addColumnTemplates = [.addColumn]) (c : Column) :
    Reaches o (r.tryAddColumn o c) w (.ok (r.tryStep o c w.store.tables).1)
      (r.tryStep o c w.store.tables).2 := by
  have hadded := addColumn_reaches hw hadd c
  have hrejects := fun e => addStep_rejects (o := o) (r := r) (t := w.store.tables) c (e := e)
  unfold tryStep
  rcases hstep : r.addStep o c w.store.tables with ⟨answer, t⟩
  rw [hstep] at hadded hrejects
  cases answer with
  | ok _ => exact .attempt_bind hadded fun w₁ hw₁ ht₁ => .pure hw₁ ht₁ true
  | error e =>
    refine .attempt_bind hadded fun w₁ hw₁ ht₁ => ?_
    subst ht₁
    exact recheck_reaches hw₁ c (hrejects e rfl)

/-- The attempts at several columns, one step after the other. -/
theorem addColumns_reaches (hw : w.store.IsQuiet o)
    (hadd : r.addColumnTemplates = [.addColumn]) (cs : List Column) :
    Reaches o (r.addColumns o cs) w (.ok (r.addSteps o cs w.store.tables).1)
      (r.addSteps o cs w.store.tables).2 := by
  induction cs generalizing w with
  | nil => exact .pure hw rfl []
  | cons c cs ih =>
    refine .bind (tryAddColumn_reaches hw hadd c) fun w₁ hw₁ ht₁ => ?_
    refine .bind (ih hw₁) fun w₂ hw₂ ht₂ => ?_
    rw [ht₁] at ht₂ ⊢
    exact .pure hw₂ ht₂ _

/-- Extending a table on a quiet store. -/
theorem extend_reaches (hw : w.store.IsQuiet o)
    (hadd : r.addColumnTemplates = [.addColumn] ∨ r.addColumnTemplates = []) (g : Gap) :
    Reaches o (r.extend o g) w
      (.ok (Column.sort (g.missing ++ (r.extendSteps o g.addable w.store.tables).1)))
      (r.extendSteps o g.addable w.store.tables).2 := by
  unfold extend
  by_cases hempty : g.addable = []
  · rw [hempty, extendSteps_nil, List.append_nil]
    exact .pure hw rfl _
  · rw [if_neg (by simpa using hempty)]
    unfold extendSteps
    rcases hadd with hadd | hadd
    · rw [if_neg (by simp [hadd]), if_neg (by simp [hadd])]
      refine .bind (addColumns_reaches hw hadd g.addable) fun w₁ hw₁ ht₁ => ?_
      split
      · exact .bind (.setDefinition hw₁ ht₁ _) fun w₂ hw₂ ht₂ => .pure hw₂ ht₂ _
      · exact .pure hw₁ ht₁ _
    · rw [if_pos (by simp [hadd]), if_pos (by simp [hadd])]
      exact .pure hw rfl _

end Request

end MetricTables
