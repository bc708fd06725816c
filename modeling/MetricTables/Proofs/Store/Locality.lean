import MetricTables.Proofs.Store.Catalog

/-!
# Where stores change

A statement of the default templates reads and writes one place, whatever the names in it are.
So two stores that agree there, and fail alike, answer it alike and go on agreeing, and all other
places are left as they are. The same holds for comments and for questions.

## Main definitions

* `Catalog.ActsAt` — a change that reads and writes one place.
* `MemoryStore.SameAt` — stores that agree at some places and fail alike.
* `MemoryStore.ChangesIn` — what a store is like that changed at some places only.

## Main statements

* `Template.createTable_actsAt`, `Template.createTagTable_actsAt`, `Template.addColumn_actsAt` — the
  statements of the default templates act at the place of their table.
* `MemoryStore.execute_sameAt`, `MemoryStore.execute_changesIn` — what an execution reads and
  writes.
-/

namespace MetricTables

open Sql.Grammar

/-! ## Changes of one place -/

namespace Catalog

variable {p q : TablePlace} {t t' : Catalog}

/-- A change that reads and writes one place: whether it is accepted, and what the place has then,
depends on what the place had. -/
def ActsAt (p : TablePlace) (change : Catalog → Except StoreError Catalog) : Prop :=
  ∃ f : Option (List StoredColumn) → Except StoreError (List StoredColumn),
    ∀ t : Catalog, change t = (f (t.find? p)).map fun columns => KeyMap.insert t p columns

theorem actsAt_createTable (p : TablePlace) (definitions : List Sql.ColumnDefinition) :
    ActsAt p fun t => t.createTable (nameOf p) false definitions := by
  refine ⟨fun old =>
    if old.isSome then .error (relationExists p.2)
    else if definitions.isEmpty then .error (withoutColumns p.2)
    else newColumns definitions, fun t => ?_⟩
  unfold createTable
  rw [place_nameOf]
  cases hfind : t.find? p with
  | some columns =>
    simp [KeyMap.contains, hfind, bind, Except.bind, throw, throwThe, MonadExceptOf.throw,
      Except.map]
  | none =>
    by_cases hempty : definitions.isEmpty = true
    · simp [KeyMap.contains, hfind, hempty, bind, Except.bind, throw, throwThe, MonadExceptOf.throw,
        Except.map]
    · cases hcolumns : newColumns definitions <;>
        simp [KeyMap.contains, hfind, hempty, bind, Except.bind, pure, Except.pure, Except.map]

theorem actsAt_alterTable (p : TablePlace) (changes : List Sql.TableChange) :
    ActsAt p fun t => t.alterTable (nameOf p) changes := by
  refine ⟨fun old => old.elim (.error (relationMissing p.2)) (changes.foldlM (change p.2)),
    fun t => ?_⟩
  unfold alterTable
  rw [place_nameOf]
  cases hfind : t.find? p with
  | none => simp [hfind, bind, Except.bind, throw, throwThe, MonadExceptOf.throw, Except.map]
  | some columns =>
    cases hchanged : changes.foldlM (change p.2) columns <;>
      simp [hfind, hchanged, bind, Except.bind, pure, Except.pure, Except.map]

theorem actsAt_comment (p : TablePlace) (column text : String) :
    ActsAt p fun t => t.comment p column text := by
  refine ⟨fun old => old.elim (.error (relationMissing p.2)) fun columns =>
    (columns.findIdx? fun c => c.name == column).elim (.error (columnMissing p.2 column)) fun i =>
      .ok (columns.modify i fun c => { c with comment := some text }), fun t => ?_⟩
  cases hfind : t.find? p with
  | none => simp [comment, hfind, Except.map]
  | some columns =>
    cases hidx : columns.findIdx? fun c => c.name == column <;>
      simp [comment, hfind, hidx, Except.map]

/-- A text of one statement acts where the statement does. -/
theorem actsAt_run {sql : String} {statement : Sql.Statement}
    (hsql : Sql.statements? sql = some [statement]) (h : ActsAt p fun t => t.apply statement) :
    ActsAt p fun t => t.run sql := by
  obtain ⟨f, hf⟩ := h
  refine ⟨f, fun t => ?_⟩
  have hrun : t.run sql = t.apply statement := by
    rw [run_of_statements t hsql]
    cases hstep : t.apply statement <;> simp [hstep, bind, Except.bind, pure, Except.pure]
  exact hrun.trans (hf t)

/-- A text that cannot be read acts nowhere. -/
theorem actsAt_run_of_none (p : TablePlace) {sql : String} (hsql : Sql.statements? sql = none) :
    ActsAt p fun t => t.run sql :=
  ⟨fun _ => .error (grammarError grammarReason), fun t => by simp [run_of_none t hsql, Except.map]⟩

end Catalog

namespace Template

open Catalog

variable {c : Context} {sql : String}

theorem createTable_actsAt (hcolumns : c.columns ≠ [])
    (htypes : ∀ col ∈ c.columns, ∀ s, col.type ≠ .other s) (h : createTable.render c = .ok sql) :
    ActsAt c.place fun t => t.run sql :=
  actsAt_run (statements?_createTable hcolumns htypes h) (actsAt_createTable _ _)

theorem createTagTable_actsAt (hcolumns : c.columns ≠ [])
    (htypes : ∀ col ∈ c.columns, ∀ s, col.type ≠ .other s) (h : createTagTable.render c = .ok sql) :
    ActsAt c.place fun t => t.run sql := by
  by_cases hkey : keyColumns c.columns = []
  · exact actsAt_run_of_none _ (statements?_createTagTable_eq_none hcolumns htypes h hkey)
  · exact actsAt_run (statements?_createTagTable hcolumns htypes h hkey) (actsAt_createTable _ _)

theorem addColumn_actsAt {col : Column} (hcolumns : c.columns = [col])
    (htype : ∀ s, col.type ≠ .other s) (h : addColumn.render c = .ok sql) :
    ActsAt c.place fun t => t.run sql :=
  actsAt_run (statements?_addColumn hcolumns htype h) (actsAt_alterTable _ _)

end Template

/-! ## Calls of the store in memory -/

namespace MemoryStore

variable {P : TablePlace → Prop} {p : TablePlace} {s t : MemoryStore}

/-- Stores that agree at some places and fail alike, to which nobody else plans to write. -/
structure SameAt (P : TablePlace → Prop) (s t : MemoryStore) : Prop where
  tables : ∀ p, P p → s.tables.find? p = t.tables.find? p
  isOffline : s.isOffline = t.isOffline
  nextFailures : s.nextFailures = t.nextFailures
  textFailures : s.textFailures = t.textFailures
  latency : s.latency = t.latency
  otherWrites : s.otherWrites = []
  otherWrites' : t.otherWrites = []

/-- A store after changes at some places only. Planned failures may have come. -/
structure ChangesIn (P : TablePlace → Prop) (s t : MemoryStore) : Prop where
  tables : ∀ p, ¬ P p → t.tables.find? p = s.tables.find? p
  isOffline : t.isOffline = s.isOffline
  nextFailures : t.nextFailures <:+ s.nextFailures
  textFailures : t.textFailures = s.textFailures
  latency : t.latency = s.latency
  otherWrites : t.otherWrites = []

theorem ChangesIn.refl (P : TablePlace → Prop) (hs : s.otherWrites = []) : ChangesIn P s s :=
  ⟨fun _ _ => rfl, rfl, List.suffix_rfl, rfl, rfl, hs⟩

theorem ChangesIn.trans {u : MemoryStore} (h : ChangesIn P s t) (h' : ChangesIn P t u) :
    ChangesIn P s u where
  tables p hp := (h'.tables p hp).trans (h.tables p hp)
  isOffline := h'.isOffline.trans h.isOffline
  nextFailures := h'.nextFailures.trans h.nextFailures
  textFailures := h'.textFailures.trans h.textFailures
  latency := h'.latency.trans h.latency
  otherWrites := h'.otherWrites

theorem execute_of_no_writes (hs : s.otherWrites = []) (sql : String) :
    s.execute sql = if s.isOffline then (.error offline, s) else s.executeUndisturbed sql := by
  rw [execute, landWrite, hs]

/-- A change of one place keeps stores that agree there in agreement. -/
theorem SameAt.apply {change : Catalog → Except StoreError Catalog} (hp : P p)
    (hchange : Catalog.ActsAt p change) (h : SameAt P s t) :
    (∃ e, change s.tables = .error e ∧ change t.tables = .error e) ∨
      ∃ tables tables', change s.tables = .ok tables ∧ change t.tables = .ok tables' ∧
        ∀ q, P q → tables.find? q = tables'.find? q := by
  obtain ⟨f, hf⟩ := hchange
  rw [hf, hf, ← h.tables p hp]
  cases f (s.tables.find? p) with
  | error e => exact .inl ⟨e, rfl, rfl⟩
  | ok columns =>
    refine .inr ⟨_, _, rfl, rfl, fun q hq => ?_⟩
    by_cases hqp : q = p
    · rw [hqp, KeyMap.find?_insert_self, KeyMap.find?_insert_self]
    · rw [KeyMap.find?_insert_of_ne _ hqp, KeyMap.find?_insert_of_ne _ hqp, h.tables q hq]

/-- A change of one place leaves all others. -/
theorem find?_of_actsAt {change : Catalog → Except StoreError Catalog} {tables : Catalog}
    (hchange : Catalog.ActsAt p change) (h : change s.tables = .ok tables) {q : TablePlace}
    (hq : q ≠ p) : tables.find? q = s.tables.find? q := by
  obtain ⟨f, hf⟩ := hchange
  rw [hf] at h
  cases hcolumns : f (s.tables.find? p) with
  | error e =>
    rw [hcolumns] at h
    cases h
  | ok columns =>
    rw [hcolumns] at h
    cases h
    exact KeyMap.find?_insert_of_ne _ hq _

section Calls

variable (hp : P p)
include hp

theorem columns_sameAt (h : SameAt P s t) :
    (s.columns p).1 = (t.columns p).1 ∧ SameAt P (s.columns p).2 (t.columns p).2 := by
  unfold columns
  rw [← h.isOffline, ← h.tables p hp]
  split
  · exact ⟨rfl, h⟩
  · exact ⟨rfl, { h with isOffline := rfl }⟩

/-- An execution that acts at one place cannot tell stores apart that agree there. -/
theorem execute_sameAt {sql : String} (hsql : Catalog.ActsAt p fun t => t.run sql)
    (h : SameAt P s t) :
    (s.execute sql).1 = (t.execute sql).1 ∧ SameAt P (s.execute sql).2 (t.execute sql).2 := by
  have htext : s.textFailure? sql = t.textFailure? sql := by
    rw [textFailure?, textFailure?, h.textFailures]
  rw [execute_of_no_writes h.otherWrites, execute_of_no_writes h.otherWrites', ← h.isOffline]
  split
  · exact ⟨rfl, h⟩
  · unfold executeUndisturbed
    rw [← h.nextFailures, ← htext]
    split
    · exact ⟨rfl, { h with nextFailures := rfl }⟩
    · split
      · exact ⟨rfl, h⟩
      · unfold runText
        rcases h.apply hp hsql with ⟨e, hs, ht⟩ | ⟨tables, tables', hs, ht, hsame⟩
        · rw [hs, ht]
          exact ⟨rfl, h⟩
        · rw [hs, ht]
          exact ⟨rfl, { h with tables := hsame }⟩

theorem comment_sameAt (column text : String) (h : SameAt P s t) :
    (s.comment p column text).1 = (t.comment p column text).1 ∧
      SameAt P (s.comment p column text).2 (t.comment p column text).2 := by
  unfold comment
  rw [← h.isOffline]
  split
  · exact ⟨rfl, h⟩
  · rcases h.apply hp (Catalog.actsAt_comment p column text) with
      ⟨e, hs, ht⟩ | ⟨tables, tables', hs, ht, hsame⟩
    · rw [hs, ht]
      exact ⟨rfl, h⟩
    · rw [hs, ht]
      exact ⟨rfl, { h with tables := hsame, isOffline := rfl }⟩

omit hp in
theorem columns_changesIn (hs : s.otherWrites = []) : ChangesIn P s (s.columns p).2 := by
  unfold columns
  split
  · exact .refl P hs
  · exact { ChangesIn.refl P hs with }

theorem execute_changesIn {sql : String} (hsql : Catalog.ActsAt p fun t => t.run sql)
    (hs : s.otherWrites = []) : ChangesIn P s (s.execute sql).2 := by
  rw [execute_of_no_writes hs]
  split
  · exact .refl P hs
  · unfold executeUndisturbed
    split
    next e rest hnext => exact { ChangesIn.refl P hs with nextFailures := ⟨[e], hnext.symm⟩ }
    · split
      · exact .refl P hs
      · unfold runText
        split
        · exact .refl P hs
        next tables hrun =>
          exact { ChangesIn.refl P hs with
            tables := fun q hq => find?_of_actsAt hsql hrun fun he => hq (he ▸ hp) }

theorem comment_changesIn (column text : String) (hs : s.otherWrites = []) :
    ChangesIn P s (s.comment p column text).2 := by
  unfold comment
  split
  · exact .refl P hs
  · split
    · exact .refl P hs
    next tables hrun =>
      exact { ChangesIn.refl P hs with
        tables := fun q hq =>
          find?_of_actsAt (Catalog.actsAt_comment p column text) hrun fun he => hq (he ▸ hp) }

end Calls

end MemoryStore

end MetricTables
