import MetricTables.Proofs.Store.Catalog
import MetricTables.Proofs.Store.Shared

/-!
# Executions

An execution changes all or nothing. If it fails, the store has the tables and the journal that it
had, but for the write of another that was due. If it takes effect, every table keeps its columns
in front and gains columns of new names only, so that where no table lacked columns or gave a name
twice none does so afterwards.

## Main definitions

* `AddsNames` — new names behind others, each once.
* `Catalog.Grows` — what a text that takes effect does to tables.
* `Catalog.IsFormed` — every table has columns, of different names.
* `MemoryStore.IsFormed` — so have the tables of the store, and those that are to be written.

## Main statements

* `run_grows` — a text of any statements makes tables grow.
* `execute_allOrNothing` — what an execution does.
-/

namespace MetricTables

/-! ## Names -/

/-- New names are put behind others, each once. -/
def AddsNames (names names' : List String) : Prop :=
  ∃ more, names' = names ++ more ∧ more.Nodup ∧ more.Disjoint names

namespace AddsNames

variable {names names' names'' : List String} {n : String}

theorem refl (names : List String) : AddsNames names names := ⟨[], by simp⟩

theorem append_iff {more : List String} :
    AddsNames names (names ++ more) ↔ more.Nodup ∧ more.Disjoint names := by
  simp [AddsNames]

theorem single (h : n ∉ names) : AddsNames names (names ++ [n]) :=
  append_iff.2 ⟨List.nodup_singleton n, List.singleton_disjoint.2 h⟩

theorem trans (h : AddsNames names names') (h' : AddsNames names' names'') :
    AddsNames names names'' := by
  obtain ⟨more, rfl, hmore, hnew⟩ := h
  obtain ⟨more', rfl, hmore', hnew'⟩ := h'
  rw [List.disjoint_append_right] at hnew'
  exact ⟨more ++ more', List.append_assoc .., hmore.append hmore' hnew'.2.symm,
    List.disjoint_append_left.2 ⟨hnew, hnew'.1⟩⟩

/-- Names that were different stay different. -/
theorem nodup (h : AddsNames names names') (hnames : names.Nodup) : names'.Nodup := by
  obtain ⟨more, rfl, hmore, hnew⟩ := h
  exact hnames.append hmore hnew.symm

/-- Of names that are added some may be added before the others. -/
theorem split (h : AddsNames names names'') (hle : names <+: names') (hle' : names' <+: names'') :
    AddsNames names names' ∧ AddsNames names' names'' := by
  obtain ⟨more, rfl⟩ := hle
  obtain ⟨more', rfl⟩ := hle'
  rw [List.append_assoc, append_iff, List.disjoint_append_left] at h
  obtain ⟨hnodup, hnew, hnew'⟩ := h
  obtain ⟨hmore, hmore', hdisjoint⟩ := List.nodup_append'.1 hnodup
  exact ⟨append_iff.2 ⟨hmore, hnew⟩,
    append_iff.2 ⟨hmore', List.disjoint_append_right.2 ⟨hnew', hdisjoint.symm⟩⟩⟩

end AddsNames

namespace Catalog

variable {t t' t'' : Catalog} {p : TablePlace} {table : String}
  {columns columns' : List StoredColumn}

def namesAt (t : Catalog) (p : TablePlace) : List String := (t.columnsAt p).map StoredColumn.name

theorem namesAt_of_find? (h : t.find? p = some columns) :
    t.namesAt p = columns.map StoredColumn.name := by
  rw [namesAt, columnsAt_of_find? h]

@[simp] theorem namesAt_insert_self (t : Catalog) (p : TablePlace) (columns : List StoredColumn) :
    namesAt (t.insert p columns) p = columns.map StoredColumn.name := by
  rw [namesAt, columnsAt_insert_self]

theorem namesAt_insert_of_ne (t : Catalog) {q : TablePlace} (h : q ≠ p)
    (columns : List StoredColumn) : namesAt (t.insert p columns) q = t.namesAt q := by
  rw [namesAt, columnsAt_insert_of_ne t h, namesAt]

/-! ## Statements -/

/-- Every table keeps its columns in front, and gains columns of new names. -/
structure Grows (t t' : Catalog) : Prop where
  kept : ∀ p columns, t.find? p = some columns → ∃ more, t'.find? p = some (columns ++ more)
  names : ∀ p, AddsNames (t.namesAt p) (t'.namesAt p)

theorem Grows.refl (t : Catalog) : t.Grows t :=
  ⟨fun _ columns h => ⟨[], by rw [h, List.append_nil]⟩, fun _ => .refl _⟩

theorem Grows.trans (h : t.Grows t') (h' : t'.Grows t'') : t.Grows t'' where
  kept p columns hfind := by
    obtain ⟨more, hmore⟩ := h.kept p columns hfind
    obtain ⟨more', hmore'⟩ := h'.kept p _ hmore
    exact ⟨more ++ more', by rw [hmore', List.append_assoc]⟩
  names p := (h.names p).trans (h'.names p)

/-- Columns are put where no table is, or where their front was. -/
theorem grows_insert (hfront : ∀ old, t.find? p = some old → old <+: columns)
    (hnames : AddsNames (t.namesAt p) (columns.map StoredColumn.name)) :
    t.Grows (t.insert p columns) where
  kept q old hfind := by
    by_cases hq : q = p
    · subst hq
      obtain ⟨more, hmore⟩ := hfront old hfind
      exact ⟨more, by rw [KeyMap.find?_insert_self, hmore]⟩
    · exact ⟨[], by rw [KeyMap.find?_insert_of_ne _ hq, hfind, List.append_nil]⟩
  names q := by
    by_cases hq : q = p
    · subst hq
      rw [namesAt_insert_self]
      exact hnames
    · rw [namesAt_insert_of_ne t hq]
      exact .refl _

theorem change_addsNames {c : Sql.TableChange} (h : change table columns c = .ok columns') :
    columns <+: columns' ∧
      AddsNames (columns.map StoredColumn.name) (columns'.map StoredColumn.name) := by
  rcases change_cases h with rfl | ⟨s, rfl, hnew⟩
  · exact ⟨List.prefix_rfl, .refl _⟩
  · exact ⟨List.prefix_append _ _, by simpa using AddsNames.single hnew⟩

theorem newColumns_addsNames {ds : List Sql.ColumnDefinition} (h : newColumns ds = .ok columns) :
    AddsNames [] (columns.map StoredColumn.name) := by
  refine foldlM_keeps (P := fun cs => AddsNames [] (cs.map StoredColumn.name))
    (fun cs d cs' hcs hstep => ?_) (.refl _) h
  dsimp only at hstep
  split at hstep
  · cases hstep
  next hnew =>
    cases hstep
    exact hcs.trans (by simpa using AddsNames.single (not_mem_of_not_hasColumn hnew))

/-- A table that is there already keeps its columns. -/
theorem createTable_grows {name : Sql.QualifiedName} {ifNotExists : Bool}
    {definitions : List Sql.ColumnDefinition}
    (h : t.createTable name ifNotExists definitions = .ok t') : t.Grows t' := by
  rcases createTable_cases h with rfl | ⟨p, columns, hlacks, _, hcolumns, rfl⟩
  · exact .refl t'
  · have hnone : t.find? p = none := by simpa [KeyMap.contains] using hlacks
    refine grows_insert (fun old hfind => ?_) ?_
    · cases hnone.symm.trans hfind
    · have hnames : t.namesAt p = [] := by simp [namesAt, columnsAt, hnone]
      rw [hnames]
      exact newColumns_addsNames hcolumns

/-- The operations on a table work on its columns one after the other. -/
theorem alterTable_grows {name : Sql.QualifiedName} {changes : List Sql.TableChange}
    (h : t.alterTable name changes = .ok t') : t.Grows t' := by
  obtain ⟨p, columns, changed, hfind, hchanged, rfl⟩ := alterTable_cases h
  have hall : columns <+: changed ∧
      AddsNames (columns.map StoredColumn.name) (changed.map StoredColumn.name) := by
    refine foldlM_keeps (P := fun cs => columns <+: cs ∧
      AddsNames (columns.map StoredColumn.name) (cs.map StoredColumn.name))
      (fun cs c cs' hcs h => ?_)
      ⟨List.prefix_rfl, .refl _⟩ hchanged
    obtain ⟨hfront, hnames⟩ := change_addsNames h
    exact ⟨hcs.1.trans hfront, hcs.2.trans hnames⟩
  refine grows_insert (fun old hold => ?_) ?_
  · obtain rfl := Option.some.inj (hfind.symm.trans hold)
    exact hall.1
  · rw [namesAt_of_find? hfind]
    exact hall.2

theorem apply_grows {s : Sql.Statement} (h : t.apply s = .ok t') : t.Grows t' := by
  cases s with
  | createTable name ifNotExists definitions => exact createTable_grows h
  | alterTable name changes => exact alterTable_grows h
  | dropTable ifExists names shown => cases h
  | query references shown => cases h
  | other shown => cases h

/-- A text that takes effect does what its statements do. -/
theorem run_grows {sql : String} {g : Sql.Dialect} (h : t.run sql g = .ok t') : t.Grows t' := by
  unfold run at h
  split at h
  · cases h
  · exact foldlM_keeps (P := t.Grows) (fun _ _ _ ht hstep => ht.trans (apply_grows hstep))
      (.refl t) h

end Catalog

/-! ## Tables -/

/-- At least one column, and no two of one name. -/
structure StoredColumn.FormTable (columns : List StoredColumn) : Prop where
  ne_nil : columns ≠ []
  names : (columns.map StoredColumn.name).Nodup

open StoredColumn (FormTable)

namespace Catalog

variable {t t' : Catalog} {p : TablePlace} {columns : List StoredColumn}

/-- The columns at every place form a table. -/
def IsFormed (t : Catalog) : Prop := ∀ p columns, t.find? p = some columns → FormTable columns

theorem IsFormed.nodup_namesAt (ht : t.IsFormed) (p : TablePlace) : (t.namesAt p).Nodup := by
  cases hfind : t.find? p with
  | none => simp [namesAt, columnsAt, hfind]
  | some columns =>
    rw [namesAt_of_find? hfind]
    exact (ht p columns hfind).names

theorem IsFormed.insert (ht : t.IsFormed) (hcolumns : FormTable columns) :
    IsFormed (KeyMap.insert t p columns) := by
  intro q columns' hfind
  by_cases hq : q = p
  · subst hq
    rw [KeyMap.find?_insert_self] at hfind
    exact Option.some.inj hfind ▸ hcolumns
  · rw [KeyMap.find?_insert_of_ne _ hq] at hfind
    exact ht q columns' hfind

/-- Whatever is run, columns that formed tables do so afterwards. -/
theorem run_isFormed {sql : String} {g : Sql.Dialect} (ht : t.IsFormed)
    (h : t.run sql g = .ok t') : t'.IsFormed := by
  intro p columns hfind
  have hproper : t.ProperAt p := fun hnil => (ht p [] hnil).ne_nil rfl
  refine ⟨?_, ?_⟩
  · rintro rfl
    exact run_properAt hproper h hfind
  · rw [← namesAt_of_find? hfind]
    exact ((run_grows h).names p).nodup (ht.nodup_namesAt p)

end Catalog

/-! ## Executions -/

namespace MemoryStore

variable {g : Sql.Dialect} {s s' : MemoryStore g} {sql : String}

/-- All columns form tables, those of planned writes as well. -/
structure IsFormed (s : MemoryStore g) : Prop where
  tables : s.tables.IsFormed
  otherWrites : ∀ w ∈ s.otherWrites, FormTable w.2

/-- The first write that is due lands, if one is. -/
theorem landWrite_cases (s : MemoryStore g) :
    s.landWrite = s ∨ ∃ p columns rest, s.otherWrites = (p, columns) :: rest ∧
      s.landWrite = { s with tables := s.tables.insert p columns, otherWrites := rest } := by
  cases hwrites : s.otherWrites with
  | nil => exact .inl (by rw [landWrite, hwrites])
  | cons w rest => exact .inr ⟨w.1, w.2, rest, rfl, by rw [landWrite, hwrites]; rfl⟩

theorem landWrite_isFormed (hs : s.IsFormed) : s.landWrite.IsFormed := by
  rcases s.landWrite_cases with hland | ⟨p, columns, rest, hwrites, hland⟩
  · rw [hland]
    exact hs
  · have hdue : ∀ w ∈ (p, columns) :: rest, FormTable w.2 := hwrites ▸ hs.otherWrites
    rw [hland]
    exact ⟨hs.tables.insert (hdue _ List.mem_cons_self),
      fun w hw => hdue w (List.mem_cons_of_mem _ hw)⟩

/-- A failure changes nothing, but that a planned one is used up. -/
theorem executeUndisturbed_error {e : StoreError} (h : s.executeUndisturbed sql = (.error e, s')) :
    s' = { s with nextFailures := s.nextFailures.tail } := by
  unfold executeUndisturbed at h
  split at h
  next hnext =>
    cases h
    rw [hnext, List.tail_cons]
  next hnext =>
    have hsame : ({ s with nextFailures := s.nextFailures.tail } : MemoryStore g) = s := by
      simp only [hnext, List.tail_nil]
      rw [← hnext]
    rw [hsame]
    split at h
    · exact (Prod.mk.inj h).2.symm
    · unfold runText at h
      split at h
      · exact (Prod.mk.inj h).2.symm
      · cases h

/-- A success is one of the text. -/
theorem executeUndisturbed_ok (h : s.executeUndisturbed sql = (.ok (), s')) :
    ∃ tables, s.tables.run sql g = .ok tables ∧
      s' = { s with tables, executed := s.executed ++ [sql] } := by
  unfold executeUndisturbed at h
  split at h
  · cases h
  · split at h
    · cases h
    · unfold runText at h
      split at h
      · cases h
      next tables hrun => exact ⟨tables, hrun, (Prod.mk.inj h).2.symm⟩

/-- An execution that fails puts the tables back, so they are formed either way. -/
theorem executeUndisturbed_isFormed (hs : s.IsFormed) (sql : String) :
    (s.executeUndisturbed sql).2.IsFormed := by
  rcases hrun : s.executeUndisturbed sql with ⟨answer, s'⟩
  cases answer with
  | error e =>
    rw [executeUndisturbed_error hrun]
    exact ⟨hs.tables, hs.otherWrites⟩
  | ok _ =>
    obtain ⟨tables, htables, rfl⟩ := executeUndisturbed_ok hrun
    exact ⟨Catalog.run_isFormed hs.tables htables, hs.otherWrites⟩

theorem execute_of_offline (h : s.isOffline = true) (sql : String) :
    s.execute sql = (.error offline, s) := if_pos h

/-- A store that is up fails where the catalog does. -/
theorem execute_of_run_error (hs : s.IsUp) {e : StoreError}
    (h : s.landWrite.tables.run sql g = .error e) : s.execute sql = (.error e, s.landWrite) := by
  simp [hs.execute_eq, runText, h]

/-- An execution changes all or nothing, in whatever dialect the store reads texts. A store that is
offline does not change. A failure leaves the journal and all tables, but that the first write that
was due may have landed. A success leaves every table that was there behind the write with its
columns, and their comments, in front. In either case, columns that form tables still do. -/
theorem execute_allOrNothing (s : MemoryStore g) (sql : String) :
    (s.isOffline = true → s.execute sql = (.error offline, s)) ∧
    (∀ e s', s.execute sql = (.error e, s') → s'.executed = s.executed ∧
      (s'.tables = s.tables ∧ s'.otherWrites = s.otherWrites ∨
        ∃ p columns, s.otherWrites = (p, columns) :: s'.otherWrites ∧
          s'.tables = s.tables.insert p columns)) ∧
    (∀ s', s.execute sql = (.ok (), s') → s'.executed = s.executed ++ [sql] ∧
      ∀ p columns, s.landWrite.tables.find? p = some columns →
        ∃ more, s'.tables.find? p = some (columns ++ more)) ∧
    (s.IsFormed → (s.execute sql).2.IsFormed) := by
  cases hoffline : s.isOffline with
  | true =>
    rw [execute_of_offline hoffline sql]
    refine ⟨fun _ => rfl, fun e s' h => ?_, fun s' h => ?_, id⟩
    · cases h
      exact ⟨rfl, .inl ⟨rfl, rfl⟩⟩
    · cases h
  | false =>
    rw [execute_of_online hoffline]
    refine ⟨fun h => (nomatch h), fun e s' h => ?_, fun s' h => ?_,
      fun hs => executeUndisturbed_isFormed (landWrite_isFormed hs) sql⟩
    · rw [executeUndisturbed_error h]
      refine ⟨s.landWrite_executed, ?_⟩
      rcases s.landWrite_cases with hland | ⟨p, columns, rest, hwrites, hland⟩
      · exact .inl (by rw [hland]; exact ⟨rfl, rfl⟩)
      · exact .inr ⟨p, columns, by rw [hland]; exact ⟨hwrites, rfl⟩⟩
    · obtain ⟨tables, hrun, rfl⟩ := executeUndisturbed_ok h
      exact ⟨by rw [landWrite_executed], (Catalog.run_grows hrun).kept⟩

/-- A store with one table, where a write of another one is due. -/
def contested : MemoryStore where
  tables := KeyMap.empty.insert ("public", "cpu") [⟨"time", "bigint", none⟩]
  otherWrites := [(("public", "mem"), [⟨"free", "bigint", some "tag"⟩])]

/-- A column that may be added to the table. -/
def addedTo (name : String) : Template.Context where
  namespaceName := "public"
  table := "cpu"
  metricTable := "cpu"
  tagTable := none
  columns := [⟨name, .tag, .text⟩]
  allColumns := []

theorem contested_isFormed : contested.IsFormed where
  tables := by
    have hempty : Catalog.IsFormed .empty := fun _ _ hfind => nomatch hfind
    exact hempty.insert ⟨by simp, by simp⟩
  otherWrites w hw := by
    obtain rfl := List.mem_singleton.1 hw
    exact ⟨by simp, by simp⟩

theorem execute_allOrNothing_contested :
    (contested.setOffline true).execute "" = (.error offline, contested.setOffline true) ∧
    (∃ sql s', contested.execute sql = (.error (Catalog.columnExists "cpu" "time"), s') ∧
      s'.executed = [] ∧ ∃ p columns, contested.otherWrites = (p, columns) :: s'.otherWrites ∧
        s'.tables = contested.tables.insert p columns) ∧
    ∃ sql s', contested.execute sql = (.ok (), s') ∧ s'.executed = [sql] ∧
      (∃ more, s'.tables.find? ("public", "cpu") = some ([⟨"time", "bigint", none⟩] ++ more)) ∧
      s'.IsFormed := by
  have hup : contested.IsUp := ⟨rfl, rfl, rfl⟩
  have hfind : contested.landWrite.tables.find? ("public", "cpu") =
      some [⟨"time", "bigint", none⟩] := by decide +kernel
  have hrun : ∀ {name sql}, Template.addColumn.render (addedTo name) = .ok sql →
      contested.landWrite.tables.run sql =
        if Catalog.hasColumn [⟨"time", "bigint", none⟩] name then
          .error (Catalog.columnExists "cpu" name)
        else .ok (contested.landWrite.tables.insert ("public", "cpu")
          ([⟨"time", "bigint", none⟩] ++ [⟨name, "text", none⟩])) := by
    intro name sql hrender
    have hplace : (addedTo name).place = ("public", "cpu") := rfl
    rw [Catalog.run_addColumn hrender rfl (by simp), hplace, hfind]
    rfl
  obtain ⟨sql, hrender⟩ : ∃ sql, Template.addColumn.render (addedTo "time") = .ok sql :=
    ⟨_, Template.render_addColumn _⟩
  obtain ⟨sql', hrender'⟩ : ∃ sql', Template.addColumn.render (addedTo "host") = .ok sql' :=
    ⟨_, Template.render_addColumn _⟩
  have hfail := execute_of_run_error hup (hrun hrender)
  have hdone := execute_of_run hup (hrun hrender')
  obtain ⟨hoffline, -⟩ := execute_allOrNothing (contested.setOffline true) ""
  obtain ⟨-, herror, -⟩ := execute_allOrNothing contested sql
  obtain ⟨-, -, hok, hformed⟩ := execute_allOrNothing contested sql'
  obtain ⟨hjournal, ⟨_, hnone⟩ | hlanded⟩ := herror _ _ hfail
  · cases hnone
  obtain ⟨hjournal', hkept⟩ := hok _ hdone
  have hformed' := hformed contested_isFormed
  rw [hdone] at hformed'
  exact ⟨hoffline rfl, ⟨_, _, hfail, hjournal, hlanded⟩, _, _, hdone, hjournal', hkept _ _ hfind,
    hformed'⟩

end MemoryStore

end MetricTables
