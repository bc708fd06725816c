import MetricTables.Proofs.Reconcile.Statements

/-!
# Quiet stores

A store in memory that nothing is planned for and that answers in time. What a computation
gives there, and what it leaves behind, depends on what it starts from and not on the time, so
it is told without the clock.

## Main definitions

* `MemoryStore.IsQuiet` — nothing is planned for the store.
* `RunsTo` — what a computation comes to, whatever the time.

## Main statements

* `RunsTo.bind`, `RunsTo.attempt_bind` — what two computations come to one after the other.
* `refresh_runs`, `runTemplate_runs`, `comment_runs` — what the calls come to.
* `carryOut_runs`, `createTable_runs` — what statements for columns come to.
-/

namespace MetricTables

open Reconciliation

/-- Whether calls are answered, and in time. -/
structure MemoryStore.Responds {g : Sql.Dialect} (o : Options) (s : MemoryStore g) : Prop where
  online : s.isOffline = false
  fast : ¬ o.statementTimeout < s.latency

/-- Whether nothing is to fail, no write of others is due, and calls are answered in time. -/
structure MemoryStore.IsQuiet {g : Sql.Dialect} (o : Options) (s : MemoryStore g) : Prop where
  up : s.IsUp
  noWrites : s.otherWrites = []
  fast : ¬ o.statementTimeout < s.latency

/-- What a computation gives and leaves behind, the clock aside. -/
def RunsTo {σ α : Type} (x : Reconciliation σ α) (w : Workspace σ) (answer : Except SchemaError α)
    (w' : Workspace σ) : Prop :=
  ∀ elapsed, ∃ elapsed', x { w with elapsed } = (answer, { w' with elapsed := elapsed' })

namespace RunsTo

variable {σ α β : Type} {x : Reconciliation σ α} {f : α → Reconciliation σ β}
  {w w₁ w' : Workspace σ} {answer : Except SchemaError β}

theorem pure (a : α) (w : Workspace σ) : RunsTo (Pure.pure a) w (.ok a) w :=
  fun elapsed => ⟨elapsed, rfl⟩

theorem throw (e : SchemaError) (w : Workspace σ) :
    RunsTo (throw e : Reconciliation σ α) w (.error e) w := fun elapsed => ⟨elapsed, rfl⟩

theorem bind {a : α} (h : RunsTo x w (.ok a) w₁) (hf : RunsTo (f a) w₁ answer w') :
    RunsTo (x >>= f) w answer w' := by
  intro elapsed
  obtain ⟨elapsed₁, hrun⟩ := h elapsed
  obtain ⟨elapsed', hrun'⟩ := hf elapsed₁
  exact ⟨elapsed', (run_bind_of_ok hrun).trans hrun'⟩

theorem bind_error {e : SchemaError} (h : RunsTo x w (.error e) w') :
    RunsTo (x >>= f) w (.error e) w' := by
  intro elapsed
  obtain ⟨elapsed', hrun⟩ := h elapsed
  exact ⟨elapsed', run_bind_of_error hrun⟩

theorem known_bind {f : Definition → Reconciliation σ β} (h : RunsTo (f w.definition) w answer w') :
    RunsTo (known >>= f) w answer w' := h

theorem setDefinition (f : Definition → Definition) (w : Workspace σ) :
    RunsTo (setDefinition f) w (.ok ⟨⟩) { w with definition := f w.definition } :=
  fun elapsed => ⟨elapsed, rfl⟩

theorem attempt_bind {outcome : Except SchemaError α}
    {f : Except SchemaError α → Reconciliation σ β} (h : RunsTo x w outcome w₁)
    (hf : RunsTo (f outcome) w₁ answer w') : RunsTo (attempt x >>= f) w answer w' := by
  intro elapsed
  obtain ⟨elapsed₁, hrun⟩ := h elapsed
  obtain ⟨elapsed', hrun'⟩ := hf elapsed₁
  exact ⟨elapsed', (run_bind_of_ok (run_attempt hrun)).trans hrun'⟩

theorem bounded [Store σ] {limit : Duration} {call : σ → Except StoreError α × σ}
    (hfast : ¬ limit < Store.latency w.store) {outcome : Except StoreError α} {s : σ}
    (h : call w.store = (outcome, s)) :
    RunsTo (bounded limit call) w (outcome.mapError .store) { w with store := s } :=
  fun elapsed => ⟨_, run_bounded (w := { w with elapsed }) hfast h⟩

end RunsTo

/-! ## Calls -/

namespace MemoryStore

variable {g : Sql.Dialect} {o : Options} {s : MemoryStore g}

theorem IsQuiet.responds (hs : s.IsQuiet o) : s.Responds o := ⟨hs.up.online, hs.fast⟩

theorem columns_responds (hs : s.Responds o) (p : TablePlace) : s.columns p =
    (.ok (s.tables.find? p), { s with structureQueries := s.structureQueries + 1 }) := by
  simp [columns, hs.online]

variable (hs : s.IsQuiet o)
include hs

/-- Tables, journal and counter of a quiet store may change. -/
theorem IsQuiet.change (tables : Catalog) (executed : List String) (structureQueries : Nat) :
    IsQuiet o ({ s with tables, executed, structureQueries } : MemoryStore g) :=
  ⟨⟨hs.up.online, hs.up.noNext, hs.up.noText⟩, hs.noWrites, hs.fast⟩

/-- Nothing stands between an execution and its text. -/
theorem execute_quiet (sql : String) : s.execute sql = s.runText sql := by
  rw [hs.up.execute_eq, landWrite, hs.noWrites]

theorem comment_quiet {p : TablePlace} {column text : String} {tables : Catalog}
    (h : s.tables.comment p column text = .ok tables) :
    s.comment p column text = (.ok (), { s with tables }) := by
  simp [comment, hs.up.online, h]

theorem comment_quiet_error {p : TablePlace} {column text : String} {e : StoreError}
    (h : s.tables.comment p column text = .error e) : s.comment p column text = (.error e, s) := by
  simp [comment, hs.up.online, h]

end MemoryStore

namespace Request

variable {g : Sql.Dialect} {o : Options} {r : Request} {w w' : Workspace (MemoryStore g)}

/-- What is left once the store was asked for the columns. -/
def asked (o : Options) (r : Request) (w : Workspace (MemoryStore g)) :
    Workspace (MemoryStore g) :=
  { w with
    store := { w.store with structureQueries := w.store.structureQueries + 1 }
    definition := .ofStored o (w.store.tables.find? (r.place o)) }

theorem refresh_runs (hw : w.store.Responds o) :
    RunsTo (r.refresh o) w (.ok ⟨⟩) (r.asked o w) := by
  have hcall : RunsTo (bounded o.statementTimeout (Store.columns o.namespaceName r.table)) w _ _ :=
    .bounded hw.fast (w.store.columns_responds hw (r.place o))
  exact hcall.bind (.setDefinition (fun _ => .ofStored o (w.store.tables.find? (r.place o))) _)

theorem runTemplate_runs (hw : w.store.IsQuiet o) {c : Template.Context} {template : Template}
    {sql : String} (hrender : template.render c = .ok sql) {answer : Except StoreError Unit}
    {s : MemoryStore g} (h : w.store.runText sql = (answer, s)) :
    RunsTo (runTemplate o c template) w (answer.mapError .store) { w with store := s } := by
  unfold runTemplate
  rw [hrender]
  exact .bounded hw.fast ((w.store.execute_quiet hw sql).trans h)

theorem comment_runs (hw : w.store.IsQuiet o) {column text : String}
    {answer : Except StoreError Unit} {s : MemoryStore g}
    (h : w.store.comment (r.place o) column text = (answer, s)) :
    RunsTo (bounded o.statementTimeout (Store.comment o.namespaceName r.table column text)) w
      (answer.mapError .store) { w with store := s } := .bounded hw.fast h

/-! ## Statements for columns -/

/-- The tags among the last columns of a table are marked. -/
theorem marks_runs (hw : w.store.IsQuiet o) {t : Catalog} {tags : List Column}
    {old own : List StoredColumn} (htables : w.store.tables = t.insert (r.place o) (old ++ own))
    (hown : (own.map StoredColumn.name).Nodup)
    (htags : ∀ c ∈ tags, c.name ∈ own.map StoredColumn.name ∧ c.name ∉ old.map StoredColumn.name) :
    RunsTo (tags.forM fun c => bounded o.statementTimeout
        (Store.comment o.namespaceName r.table c.name tagComment)) w (.ok ⟨⟩)
      { w with store := { w.store with
          tables := t.insert (r.place o) (old ++ markNames (tags.map Column.name) own) } } := by
  induction tags generalizing w own with
  | nil =>
    rw [List.map_nil, markNames_nil, ← htables]
    exact .pure _ w
  | cons c cs ih =>
    obtain ⟨hname, hnew⟩ := htags c List.mem_cons_self
    have hcolumns : w.store.tables.columnsAt (r.place o) = old ++ own ++ [] := by
      rw [htables, Catalog.columnsAt_insert_self, List.append_nil]
    have hcomment := Catalog.comment_tag hcolumns hown hname hnew
    rw [htables, KeyMap.insert_insert, List.append_nil, ← htables] at hcomment
    refine .bind (comment_runs hw (w.store.comment_quiet hw hcomment)) ?_
    rw [List.map_cons, ← markNames_cons c.name (cs.map Column.name) own]
    have hw₁ := hw.change (t.insert (r.place o) (old ++ markNames [c.name] own)) w.store.executed
      w.store.structureQueries
    refine ih (w := { w with store := { w.store with tables := _ } }) hw₁ rfl
      (by simpa using hown) fun d hd => ?_
    simpa using htags d (List.mem_cons_of_mem _ hd)

/-- One statement that adds columns is carried out. -/
theorem carryOut_runs (hw : w.store.IsQuiet o) {template : Template} {cs allColumns : List Column}
    {old : List StoredColumn} {sql : String}
    (hrender : template.render (r.context o cs allColumns) = .ok sql)
    (hrun : w.store.tables.run sql g =
      .ok (w.store.tables.insert (r.place o) (old ++ cs.map Column.stored)))
    (hnames : (cs.map Column.name).Nodup)
    (hnew : ∀ c ∈ cs, c.name ∉ old.map StoredColumn.name) :
    RunsTo (r.carryOut o [template] cs allColumns) w (.ok ⟨⟩)
      { w with store := { w.store with
          tables := w.store.tables.insert (r.place o) (old ++ cs.map Column.marked)
          executed := w.store.executed ++ [sql] } } := by
  refine .bind (.bind (runTemplate_runs hw hrender (w.store.runText_ok hrun)) (.pure _ _)) ?_
  have hstored : (cs.map Column.stored).map StoredColumn.name = cs.map Column.name := by simp
  have htags : ∀ c ∈ cs.filter fun c => c.role == .tag,
      c.name ∈ (cs.map Column.stored).map StoredColumn.name ∧
      c.name ∉ old.map StoredColumn.name := by
    intro c hc
    have hc := (List.mem_filter.1 hc).1
    exact ⟨hstored ▸ List.mem_map_of_mem hc, hnew c hc⟩
  have hmarks := marks_runs (r := r)
    (w := { w with store := { w.store with
      tables := w.store.tables.insert (r.place o) (old ++ cs.map Column.stored)
      executed := w.store.executed ++ [sql] } }) (hw.change _ _ _) rfl (hstored ▸ hnames) htags
  rw [markNames_tags hnames] at hmarks
  exact hmarks

/-- A table is created in one statement. -/
theorem createTable_runs (hw : w.store.IsQuiet o) {template : Template}
    (hcreate : r.createTemplates = [template]) {cs : List Column} {sql : String}
    (hrender : template.render (r.context o cs cs) = .ok sql)
    (hrun : w.store.tables.run sql g =
      .ok (w.store.tables.insert (r.place o) (cs.map Column.stored)))
    (hnames : (cs.map Column.name).Nodup) :
    RunsTo (r.createTable o cs) w (.ok ⟨⟩)
      { w with
        store := { w.store with
          tables := w.store.tables.insert (r.place o) (cs.map Column.marked)
          executed := w.store.executed ++ [sql] }
        definition := w.definition.insertAll cs } := by
  have hrun : w.store.tables.run sql g =
      .ok (w.store.tables.insert (r.place o) ([] ++ cs.map Column.stored)) := hrun
  have hcarry := carryOut_runs hw hrender hrun hnames (by simp)
  unfold createTable
  rw [hcreate]
  exact .attempt_bind hcarry (.setDefinition (·.insertAll cs) _)

/-- A statement that is rejected is not followed by marks. -/
theorem carryOut_runs_error (hw : w.store.IsQuiet o) {template : Template}
    {cs allColumns : List Column} {sql : String} {e : StoreError}
    (hrender : template.render (r.context o cs allColumns) = .ok sql)
    (hrun : w.store.tables.run sql g = .error e) :
    RunsTo (r.carryOut o [template] cs allColumns) w (.error (.store e)) w := by
  have htext : w.store.runText sql = (.error e, w.store) := by simp [MemoryStore.runText, hrun]
  exact .bind_error (.bind_error (runTemplate_runs hw hrender htext))

end Request

end MetricTables
