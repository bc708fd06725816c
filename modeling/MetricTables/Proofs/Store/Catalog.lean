import MetricTables.Proofs.DeclaredTypes
import MetricTables.Proofs.Rendering
import MetricTables.Store.Memory

/-!
# Effects of rendered statements

What the statements of the default templates do to a catalog, and to a store in memory
that is up: the place of the table gets the columns that were asked for, with their names
as they are and types that are read back as they were, and no other place changes.

## Main statements

* `run_createTable`, `run_createTagTable`, `run_addColumn` — the effect on a catalog.
* `run_properAt` — no text leaves a new table without columns.
* `execute_rendered` — the effect on a store in memory, for any names.
-/

namespace MetricTables

open Sql.Grammar

/-- If two steps succeed, each of them does. -/
theorem ok_of_bind {ε α β : Type} {x : Except ε α} {f : α → Except ε β} {b : β}
    (h : x >>= f = .ok b) : ∃ a, x = .ok a ∧ f a = .ok b := by
  cases x with
  | error e => cases h
  | ok a => exact ⟨a, rfl, h⟩

/-! ## Columns as stores keep them -/

def Column.stored (c : Column) : StoredColumn := { name := c.name, type := c.type.spelling }

@[simp] theorem Column.stored_name (c : Column) : c.stored.name = c.name := rfl

@[simp] theorem StoredColumn.ofDefinition_columnDefinitionOf (c : Column) :
    StoredColumn.ofDefinition (columnDefinitionOf c) = c.stored := rfl

namespace Catalog

variable {t : Catalog}

@[simp] theorem place_nameOf (p : TablePlace) : place (nameOf p) = .ok p := by
  unfold nameOf
  split
  next h => exact congrArg Except.ok (Prod.ext h.symm rfl)
  next => rfl

theorem hasColumn_eq_false {columns : List StoredColumn} {name : String}
    (h : name ∉ columns.map StoredColumn.name) : hasColumn columns name = false := by
  simp only [hasColumn, List.any_eq_false, beq_iff_eq]
  exact fun c hc he => h (List.mem_map.2 ⟨c, hc, he⟩)

theorem not_mem_of_not_hasColumn {columns : List StoredColumn} {name : String}
    (h : ¬ hasColumn columns name = true) : name ∉ columns.map StoredColumn.name := by
  intro hmem
  obtain ⟨s, hs, rfl⟩ := List.mem_map.1 hmem
  exact h (List.any_eq_true.2 ⟨s, hs, by simp⟩)

/-- Columns of different names make a table. -/
theorem newColumns_of_nodup {cs : List Column} (h : (cs.map Column.name).Nodup) :
    newColumns (cs.map columnDefinitionOf) = .ok (cs.map Column.stored) := by
  have hfold : ∀ (ds : List Column) (old : List StoredColumn),
      (old.map StoredColumn.name ++ ds.map Column.name).Nodup →
      (ds.map columnDefinitionOf).foldlM (m := Except StoreError)
        (fun columns d =>
          let c := StoredColumn.ofDefinition d
          if hasColumn columns c.name then .error (columnRepeated c.name) else .ok (columns ++ [c]))
        old = .ok (old ++ ds.map Column.stored) := by
    intro ds
    induction ds with
    | nil => intro old _; simp [pure, Except.pure]
    | cons d ds ih =>
      intro old hold
      have hnew : hasColumn old d.name = false := by
        refine hasColumn_eq_false fun hmem => ?_
        have := (List.nodup_append.1 hold).2.2 d.name hmem d.name (by simp)
        exact this rfl
      have hrec := ih (old ++ [d.stored]) (by simpa using hold)
      simp only [List.map_cons, List.foldlM_cons, StoredColumn.ofDefinition_columnDefinitionOf,
        Column.stored_name, hnew]
      simpa [bind, Except.bind] using hrec
  exact hfold cs [] (by simpa using h)

/-! ## Effects on a catalog -/

section Run

variable {c : Template.Context} {sql : String}

/-- A new table has the columns that it is created with; a table that exists stays. -/
theorem run_create (hsql : Sql.statements? sql =
      some [.createTable (nameOf c.place) false (c.columns.map columnDefinitionOf)])
    (hcolumns : c.columns ≠ []) (hnames : (c.columns.map Column.name).Nodup) :
    t.run sql = if t.contains c.place then .error (relationExists c.place.2)
      else .ok (t.insert c.place (c.columns.map Column.stored)) := by
  have hempty : (c.columns.map columnDefinitionOf).isEmpty = false := by simpa using hcolumns
  simp only [run_of_statements t hsql, List.foldlM_cons, List.foldlM_nil, apply, createTable,
    place_nameOf]
  by_cases ht : t.contains c.place
  · simp [ht, bind, Except.bind, throw, throwThe, MonadExceptOf.throw]
  · simp [ht, hempty, newColumns_of_nodup hnames, bind, Except.bind, pure, Except.pure]

theorem run_createTable (h : Template.createTable.render c = .ok sql) (hcolumns : c.columns ≠ [])
    (hnames : (c.columns.map Column.name).Nodup)
    (htypes : ∀ col ∈ c.columns, ∀ s, col.type ≠ .other s) :
    t.run sql = if t.contains c.place then .error (relationExists c.place.2)
      else .ok (t.insert c.place (c.columns.map Column.stored)) :=
  run_create (Template.statements?_createTable hcolumns htypes h) hcolumns hnames

theorem run_createTagTable (h : Template.createTagTable.render c = .ok sql)
    (hkey : ∃ col ∈ c.columns, col.role = .tagId) (hnames : (c.columns.map Column.name).Nodup)
    (htypes : ∀ col ∈ c.columns, ∀ s, col.type ≠ .other s) :
    t.run sql = if t.contains c.place then .error (relationExists c.place.2)
      else .ok (t.insert c.place (c.columns.map Column.stored)) := by
  obtain ⟨col, hcol, hrole⟩ := hkey
  have hcolumns : c.columns ≠ [] := List.ne_nil_of_mem hcol
  have hkeys : Template.keyColumns c.columns ≠ [] :=
    List.ne_nil_of_mem (List.mem_filter.2 ⟨hcol, by simp [hrole]⟩)
  exact run_create (Template.statements?_createTagTable hcolumns htypes h hkeys) hcolumns hnames

/-- A table gets the column that is added; a column that exists stays. -/
theorem run_addColumn {col : Column} (h : Template.addColumn.render c = .ok sql)
    (hcolumns : c.columns = [col]) (htype : ∀ s, col.type ≠ .other s) :
    t.run sql = match t.find? c.place with
      | none => .error (relationMissing c.place.2)
      | some columns =>
        if hasColumn columns col.name then .error (columnExists c.place.2 col.name)
        else .ok (t.insert c.place (columns ++ [col.stored])) := by
  simp only [run_of_statements t (Template.statements?_addColumn hcolumns htype h),
    List.foldlM_cons, List.foldlM_nil, apply, alterTable, place_nameOf]
  cases ht : t.find? c.place with
  | none => simp [ht, bind, Except.bind, throw, throwThe, MonadExceptOf.throw]
  | some columns =>
    by_cases hc : hasColumn columns col.name
    · simp [ht, hc, bind, Except.bind, change]
    · simp [ht, hc, bind, Except.bind, change, pure, Except.pure]

end Run

/-! ## Tables without columns -/

/-- The table at the place, if there is one, has a column. -/
def ProperAt (p : TablePlace) (t : Catalog) : Prop := t.find? p ≠ some []

theorem ProperAt.insert {p q : TablePlace} {columns : List StoredColumn} (h : t.ProperAt p)
    (hne : p = q → columns ≠ []) : ProperAt p (KeyMap.insert t q columns) := by
  by_cases hp : p = q
  · subst hp
    rw [ProperAt, KeyMap.find?_insert_self]
    simpa using hne rfl
  · rw [ProperAt, KeyMap.find?_insert_of_ne _ hp]
    exact h

/-- What every step keeps a fold keeps. -/
theorem foldlM_keeps {α β : Type} {P : α → Prop} {f : α → β → Except StoreError α}
    (hstep : ∀ a b a', P a → f a b = .ok a' → P a') {bs : List β} {a a' : α} (ha : P a)
    (h : bs.foldlM f a = .ok a') : P a' := by
  induction bs generalizing a with
  | nil =>
    cases h
    exact ha
  | cons b bs ih =>
    rw [List.foldlM_cons] at h
    cases hf : f a b with
    | error e =>
      rw [hf] at h
      cases h
    | ok a₁ =>
      rw [hf] at h
      exact ih (hstep a b a₁ ha hf) h

/-- A change that takes effect leaves the columns, or puts one of a new name behind them. -/
theorem change_cases {table : String} {c : Sql.TableChange} {columns columns' : List StoredColumn}
    (h : change table columns c = .ok columns') :
    columns' = columns ∨
      ∃ s, columns' = columns ++ [s] ∧ s.name ∉ columns.map StoredColumn.name := by
  cases c with
  | addColumn ifNotExists d =>
    simp only [change] at h
    split at h
    · split at h
      · exact .inl (Except.ok.inj h).symm
      · cases h
    next hnew => exact .inr ⟨_, (Except.ok.inj h).symm, not_mem_of_not_hasColumn hnew⟩
  | other word => cases h

theorem change_ne_nil {table : String} {c : Sql.TableChange} {columns columns' : List StoredColumn}
    (hne : columns ≠ []) (h : change table columns c = .ok columns') : columns' ≠ [] := by
  rcases change_cases h with rfl | ⟨s, rfl, _⟩
  · exact hne
  · simp

theorem newColumns_ne_nil {ds : List Sql.ColumnDefinition} {columns : List StoredColumn}
    (hne : ds ≠ []) (h : newColumns ds = .ok columns) : columns ≠ [] := by
  match ds, hne with
  | d :: ds, _ =>
    have hfirst : hasColumn [] (StoredColumn.ofDefinition d).name = false := rfl
    simp only [newColumns, List.foldlM_cons, hfirst, Bool.false_eq_true, if_false,
      List.nil_append] at h
    refine foldlM_keeps (P := (· ≠ [])) (fun a b a' _ hstep => ?_) (by simp) h
    split at hstep
    · cases hstep
    · cases hstep
      simp

section Proper

variable {t' : Catalog} {p : TablePlace} {name : Sql.QualifiedName}

/-- A creation that takes effect leaves everything, or puts columns where no table is. -/
theorem createTable_cases {ifNotExists : Bool} {definitions : List Sql.ColumnDefinition}
    (h : t.createTable name ifNotExists definitions = .ok t') :
    t' = t ∨ ∃ q columns, ¬ t.contains q = true ∧ definitions ≠ [] ∧
      newColumns definitions = .ok columns ∧ t' = t.insert q columns := by
  obtain ⟨q, _, hput⟩ := ok_of_bind h
  dsimp only at hput
  split at hput
  · split at hput
    · exact .inl (Except.ok.inj hput).symm
    · obtain ⟨_, hthrow, _⟩ := ok_of_bind hput
      cases hthrow
  next hcontains =>
    split at hput
    · obtain ⟨_, hthrow, _⟩ := ok_of_bind hput
      cases hthrow
    next hempty =>
      obtain ⟨columns, hcolumns, hdone⟩ := ok_of_bind hput
      exact .inr ⟨q, columns, hcontains, by simpa using hempty, hcolumns,
        (Except.ok.inj hdone).symm⟩

/-- A change that takes effect is one of a table that is there. -/
theorem alterTable_cases {changes : List Sql.TableChange}
    (h : t.alterTable name changes = .ok t') :
    ∃ q columns changed, t.find? q = some columns ∧
      changes.foldlM (change q.2) columns = .ok changed ∧ t' = t.insert q changed := by
  obtain ⟨q, _, hput⟩ := ok_of_bind h
  split at hput
  · cases hput
  next columns hfind =>
    obtain ⟨changed, hchanged, hdone⟩ := ok_of_bind hput
    exact ⟨q, columns, changed, hfind, hchanged, (Except.ok.inj hdone).symm⟩

theorem createTable_properAt {ifNotExists : Bool} {definitions : List Sql.ColumnDefinition}
    (ht : t.ProperAt p) (h : t.createTable name ifNotExists definitions = .ok t') :
    t'.ProperAt p := by
  rcases createTable_cases h with rfl | ⟨q, columns, _, hne, hcolumns, rfl⟩
  · exact ht
  · exact ht.insert fun _ => newColumns_ne_nil hne hcolumns

theorem alterTable_properAt {changes : List Sql.TableChange} (ht : t.ProperAt p)
    (h : t.alterTable name changes = .ok t') : t'.ProperAt p := by
  obtain ⟨q, columns, changed, hfind, hchanged, rfl⟩ := alterTable_cases h
  refine ht.insert fun hp => foldlM_keeps (fun _ _ _ => change_ne_nil) ?_ hchanged
  rintro rfl
  exact ht (hp ▸ hfind)

/-- A text leaves no table without columns that was not there. -/
theorem run_properAt {sql : String} {g : Sql.Dialect} (ht : t.ProperAt p)
    (h : t.run sql g = .ok t') : t'.ProperAt p := by
  unfold run at h
  split at h
  · cases h
  · refine foldlM_keeps (fun t statement t' ht hstep => ?_) ht h
    cases statement with
    | createTable name ifNotExists definitions => exact createTable_properAt ht hstep
    | alterTable name changes => exact alterTable_properAt ht hstep
    | dropTable ifExists names shown => cases hstep
    | query references shown => cases hstep
    | other shown => cases hstep

/-- A comment creates no table and takes no column away. -/
theorem comment_properAt {q : TablePlace} {column text : String} (ht : t.ProperAt p)
    (h : t.comment q column text = .ok t') : t'.ProperAt p := by
  unfold comment at h
  split at h
  · cases h
  next columns hfind =>
    split at h
    · cases h
    next i hidx =>
      cases h
      refine ht.insert fun hp hnil => ?_
      have hcolumns : columns = [] := by simpa using congrArg List.length hnil
      exact ht (hp ▸ hcolumns ▸ hfind)

end Proper

/-! ## Effects on a store in memory -/

/-- One place has the columns after a change, and no other place changes. -/
structure Puts (p : TablePlace) (columns : List StoredColumn) (t t' : Catalog) : Prop where
  here : t'.find? p = some columns
  elsewhere : ∀ q, q ≠ p → t'.find? q = t.find? q

theorem puts_insert (t : Catalog) (p : TablePlace) (columns : List StoredColumn) :
    Puts p columns t (t.insert p columns) where
  here := KeyMap.find?_insert_self ..
  elsewhere _ hq := KeyMap.find?_insert_of_ne _ hq _

/-- Kept columns are what was asked for: the names in order, as they are, and types that
are read back. -/
def Keeps (stored : List StoredColumn) (cs : List Column) : Prop :=
  stored.map StoredColumn.name = cs.map Column.name ∧
    stored.map (fun c => SqlType.parse c.type) = cs.map Column.type

theorem keeps_stored {cs : List Column} (h : ∀ c ∈ cs, ∀ s, c.type ≠ .other s) :
    Keeps (cs.map Column.stored) cs := by
  refine ⟨by simp, ?_⟩
  rw [List.map_map]
  exact List.map_congr_left fun c hc => SqlType.parse_spelling (h c hc)

end Catalog

namespace MemoryStore

variable {g : Sql.Dialect} {s : MemoryStore g}

/-- Whether nothing is planned that makes an execution fail. -/
structure IsUp (s : MemoryStore g) : Prop where
  online : s.isOffline = false
  noNext : s.nextFailures = []
  noText : s.textFailures = []

theorem runText_ok {sql : String} {tables : Catalog} (h : s.tables.run sql g = .ok tables) :
    s.runText sql = (.ok (), { s with tables, executed := s.executed ++ [sql] }) := by
  simp [runText, h]

theorem execute_of_online (h : s.isOffline = false) (sql : String) :
    s.execute sql = s.landWrite.executeUndisturbed sql := if_neg (by simp [h])

theorem executeUndisturbed_eq_runText (hnext : s.nextFailures = []) {sql : String}
    (htext : s.textFailure? sql = none) : s.executeUndisturbed sql = s.runText sql := by
  simp [executeUndisturbed, hnext, htext]

theorem IsUp.textFailure?_eq_none (hs : s.IsUp) (sql : String) : s.textFailure? sql = none := by
  simp [textFailure?, hs.noText]

/-- A store that is up runs the text, behind the write that is due. -/
theorem IsUp.execute_eq (hs : s.IsUp) (sql : String) : s.execute sql = s.landWrite.runText sql := by
  have hland : s.landWrite.IsUp := ⟨by simp [hs.online], by simp [hs.noNext], by simp [hs.noText]⟩
  rw [execute_of_online hs.online,
    executeUndisturbed_eq_runText hland.noNext (hland.textFailure?_eq_none sql)]

theorem execute_of_run (hs : s.IsUp) {sql : String} {tables : Catalog}
    (h : s.landWrite.tables.run sql g = .ok tables) :
    s.execute sql = (.ok (), { s.landWrite with tables, executed := s.executed ++ [sql] }) := by
  rw [hs.execute_eq, runText_ok h, landWrite_executed]

/-- For any names whatsoever, the statements of the default templates do what they say on
a store that is up: one place gets the columns, or one more column, and nothing else
changes. -/
theorem execute_rendered (c : Template.Context) (hnames : (c.columns.map Column.name).Nodup)
    (htypes : ∀ col ∈ c.columns, ∀ s, col.type ≠ .other s) (s : MemoryStore) (hs : s.IsUp) :
    (∀ source, source = defaultCreateTemplate ∨
        (source = defaultTagTableCreateTemplate ∧ ∃ col ∈ c.columns, col.role = .tagId) →
      c.columns ≠ [] → s.landWrite.tables.find? c.place = none →
      ∃ template sql stored tables, Template.parse source = .ok template ∧
        template.render c = .ok sql ∧
        s.execute sql = (.ok (), { s.landWrite with tables, executed := s.executed ++ [sql] }) ∧
        Catalog.Puts c.place stored s.landWrite.tables tables ∧
        Catalog.Keeps stored c.columns) ∧
    (∀ col old, c.columns = [col] → s.landWrite.tables.find? c.place = some old →
      col.name ∉ old.map StoredColumn.name →
      ∃ template sql added tables, Template.parse defaultAddColumnTemplate = .ok template ∧
        template.render c = .ok sql ∧
        s.execute sql = (.ok (), { s.landWrite with tables, executed := s.executed ++ [sql] }) ∧
        Catalog.Puts c.place (old ++ [added]) s.landWrite.tables tables ∧
        Catalog.Keeps [added] [col]) := by
  refine ⟨?_, ?_⟩
  · intro source hsource hcolumns hlacks
    have hcontains : s.landWrite.tables.contains c.place = false := by
      simp [KeyMap.contains, hlacks]
    obtain ⟨template, sql, hparse, hrender, hrun⟩ : ∃ template sql,
        Template.parse source = .ok template ∧ template.render c = .ok sql ∧
        s.landWrite.tables.run sql =
          .ok (s.landWrite.tables.insert c.place (c.columns.map Column.stored)) := by
      rcases hsource with rfl | ⟨rfl, hkey⟩
      · refine ⟨_, _, Template.parse_defaultCreateTemplate, Template.render_createTable c, ?_⟩
        rw [Catalog.run_createTable (Template.render_createTable c) hcolumns hnames htypes,
          hcontains]
        rfl
      · refine ⟨_, _, Template.parse_defaultTagTableCreateTemplate,
          Template.render_createTagTable c, ?_⟩
        rw [Catalog.run_createTagTable (Template.render_createTagTable c) hkey hnames htypes,
          hcontains]
        rfl
    exact ⟨template, sql, _, _, hparse, hrender, execute_of_run hs hrun,
      Catalog.puts_insert _ _ _, Catalog.keeps_stored htypes⟩
  · intro col old hcol hold hnew
    have htype : ∀ s, col.type ≠ .other s := htypes col (by simp [hcol])
    obtain ⟨sql, hrender⟩ : ∃ sql, Template.addColumn.render c = .ok sql :=
      ⟨_, Template.render_addColumn c⟩
    have hrun : s.landWrite.tables.run sql =
        .ok (s.landWrite.tables.insert c.place (old ++ [col.stored])) := by
      rw [Catalog.run_addColumn hrender hcol htype, hold]
      simp [Catalog.hasColumn_eq_false hnew]
    have hkeeps : Catalog.Keeps ([col].map Column.stored) [col] :=
      Catalog.keeps_stored (by simpa using htype)
    exact ⟨_, sql, col.stored, _, Template.parse_defaultAddColumnTemplate, hrender,
      execute_of_run hs hrun, Catalog.puts_insert _ _ _, hkeeps⟩

/-- Names with quotes, points, a semicolon, a comment and a new line. -/
def strangeNames : Template.Context where
  namespaceName := "Metrics.\"old\""
  table := "cpu\"; --\n/* é"
  metricTable := "cpu"
  tagTable := none
  columns := [⟨"Time", .time, .timestamp⟩, ⟨"a\".\"b", .tag, .text⟩, ⟨"", .field, .uint8⟩]
  allColumns := []

theorem execute_rendered_strangeNames :
    ∃ template sql stored tables, Template.parse defaultCreateTemplate = .ok template ∧
      template.render strangeNames = .ok sql ∧
      ({} : MemoryStore).execute sql = (.ok (), { tables, executed := [sql] }) ∧
      Catalog.Puts strangeNames.place stored .empty tables ∧
      Catalog.Keeps stored strangeNames.columns :=
  (execute_rendered strangeNames (by decide) (by simp [strangeNames]) {} ⟨rfl, rfl, rfl⟩).1
    _ (.inl rfl) (by simp [strangeNames]) rfl

end MemoryStore

end MetricTables
