import MetricTables.Proofs.Reconcile.Extend

/-!
# Requests with the default templates

The statements of the default templates add the columns that they are about if they take
effect. A request for columns of different names that begins with them is sound.

## Main definitions

* `Template.Creates`, `Template.Appends` — what a statement does if it takes effect.

## Main statements

* `createTable_creates`, `createTagTable_creates`, `addColumn_appends` — what the statements do.
* `Request.isSound_of_defaults` — the request is sound.
-/

namespace MetricTables

namespace Catalog

theorem find?_of_not_contains {t : Catalog} {p : TablePlace} (h : ¬ t.contains p = true) :
    t.find? p = none := by
  simpa [KeyMap.contains] using h

end Catalog

namespace Template

/-! ## What the default statements add -/

variable {c : Context}

/-- The statement, if it takes effect, creates the table with the columns where no table is. -/
def Creates (template : Template) (c : Context) : Prop :=
  ∀ (sql : String) (t t' : Catalog), template.render c = .ok sql → t.run sql = .ok t' →
    t.find? c.place = none ∧ t' = t.insert c.place (c.columns.map Column.stored)

/-- The statement, if it takes effect, adds the columns to a table that lacks them. -/
def Appends (template : Template) (c : Context) : Prop :=
  ∀ (sql : String) (t t' : Catalog), template.render c = .ok sql → t.run sql = .ok t' →
    ∃ old, t.find? c.place = some old ∧
      (∀ col ∈ c.columns, col.name ∉ old.map StoredColumn.name) ∧
      t' = t.insert c.place (old ++ c.columns.map Column.stored)

theorem Creates.adds {template : Template} (h : template.Creates c) : template.Adds c := by
  intro sql t t' hrender hrun
  obtain ⟨hfree, htables⟩ := h sql t t' hrender hrun
  have hnone : t.columnsAt c.place = [] := by rw [Catalog.columnsAt, hfree, Option.getD_none]
  rw [hnone]
  exact ⟨by simp, htables⟩

theorem Appends.adds {template : Template} (h : template.Appends c) : template.Adds c := by
  intro sql t t' hrender hrun
  obtain ⟨old, hfind, hnew, htables⟩ := h sql t t' hrender hrun
  rw [Catalog.columnsAt_of_find? hfind]
  exact ⟨hnew, htables⟩

/-- The default template creates a table of distinct names and types that are known. -/
theorem createTable_creates (hcolumns : c.columns ≠ [])
    (hnames : (c.columns.map Column.name).Nodup)
    (htypes : ∀ col ∈ c.columns, ∀ s, col.type ≠ .other s) : createTable.Creates c := by
  intro sql t t' hrender hrun
  rw [Catalog.run_createTable hrender hcolumns hnames htypes] at hrun
  split at hrun
  · cases hrun
  next hlacks => exact ⟨Catalog.find?_of_not_contains hlacks, (Except.ok.inj hrun).symm⟩

/-- A tag table without a key is not created. -/
theorem createTagTable_creates (hcolumns : c.columns ≠ [])
    (hnames : (c.columns.map Column.name).Nodup)
    (htypes : ∀ col ∈ c.columns, ∀ s, col.type ≠ .other s) : createTagTable.Creates c := by
  intro sql t t' hrender hrun
  by_cases hkey : ∃ col ∈ c.columns, col.role = .tagId
  · rw [Catalog.run_createTagTable hrender hkey hnames htypes] at hrun
    split at hrun
    · cases hrun
    next hlacks => exact ⟨Catalog.find?_of_not_contains hlacks, (Except.ok.inj hrun).symm⟩
  · have hkeys : keyColumns c.columns = [] := by
      refine List.filter_eq_nil_iff.2 fun col hcol hrole => hkey ⟨col, hcol, ?_⟩
      simpa using hrole
    have hnone := statements?_createTagTable_eq_none hcolumns htypes hrender hkeys
    rw [Catalog.run_of_none t hnone] at hrun
    cases hrun

/-- The default template puts one column behind those of the table. -/
theorem addColumn_appends {col : Column} (hcolumns : c.columns = [col])
    (htype : ∀ s, col.type ≠ .other s) : addColumn.Appends c := by
  intro sql t t' hrender hrun
  rw [Catalog.run_addColumn hrender hcolumns htype] at hrun
  cases hfind : t.find? c.place with
  | none =>
    rw [hfind] at hrun
    cases hrun
  | some columns =>
    simp only [hfind] at hrun
    split at hrun
    · cases hrun
    next hnew =>
      refine ⟨columns, rfl, ?_, ?_⟩
      · simpa [hcolumns] using Catalog.not_mem_of_not_hasColumn hnew
      · rw [hcolumns]
        exact (Except.ok.inj hrun).symm

end Template

namespace Request

variable {o : Options} {r : Request} {first : Template} {createRest addRest : List Template}

/-- A request for columns of different names that are read back as they are asked for, with
the default templates in front of harmless ones. -/
theorem isSound_of_defaults (hnames : (r.required.map Column.name).Nodup)
    (hrecovered : ∀ c ∈ r.required, c.IsRecovered o)
    (hfirst : first = .createTable ∨ first = .createTagTable)
    (hcreate : r.createTemplates = first :: createRest)
    (hadd : r.addColumnTemplates = .addColumn :: addRest)
    (hcreateRest : ∀ cs allColumns, r.Wants cs → cs ≠ [] →
      ∀ template ∈ createRest, template.IsHarmless (r.context o cs allColumns))
    (haddRest : ∀ c ∈ r.required, ∀ allColumns,
      ∀ template ∈ addRest, template.IsHarmless (r.context o [c] allColumns)) :
    r.IsSound o createRest addRest where
  names := hnames
  recovered := hrecovered
  create := by
    refine ⟨first, hcreate, fun cs allColumns hcs hne => ⟨?_, hcreateRest cs allColumns hcs hne⟩⟩
    have htypes : ∀ c ∈ cs, ∀ s, c.type ≠ .other s :=
      fun c hc => (hrecovered c (hcs.subset hc)).type
    rcases hfirst with rfl | rfl
    · exact (Template.createTable_creates hne hcs.names htypes).adds
    · exact (Template.createTagTable_creates hne hcs.names htypes).adds
  add := by
    refine ⟨_, hadd, fun c hc allColumns => ⟨?_, haddRest c hc allColumns⟩⟩
    exact (Template.addColumn_appends rfl (hrecovered c hc).type).adds

end Request

end MetricTables
