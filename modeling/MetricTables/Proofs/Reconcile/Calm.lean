import MetricTables.Proofs.Reconcile.Defaults
import MetricTables.Proofs.Reconcile.Frame

/-!
# Calm stores

On a store that nobody else uses, that nothing is planned for and that answers in time, a
request succeeds, and what it reports as missing depends on the columns of the table alone.

## Main definitions

* `SharedStore.IsCalm` — whether nothing can go wrong.
* `Request.IsEffective` — the first statements take effect where they can.
* `Succeeds` — a computation succeeds and leaves a calm store.

## Main statements

* `ensure_calm` — what a request reports on a calm store.
-/

namespace MetricTables

open Reconciliation SharedStore

/-! ## Calls -/

/-- Whether nobody plans anything, nothing is to fail, and calls are answered in time. -/
structure SharedStore.IsCalm (o : Options) (s : SharedStore) : Prop where
  undisturbed : s.IsUndisturbed
  up : s.memory.IsUp
  fast : ¬ o.statementTimeout < s.memory.latency

/-- A computation succeeds, and leaves a calm store. -/
def Succeeds {α : Type} (o : Options) (x : Reconciliation SharedStore α)
    (w : Workspace SharedStore) (Q : α → Workspace SharedStore → Prop) : Prop :=
  ∃ a w', x w = (.ok a, w') ∧ w'.store.IsCalm o ∧ Q a w'

namespace Succeeds

variable {o : Options} {α β : Type} {x : Reconciliation SharedStore α}
  {f : α → Reconciliation SharedStore β} {w : Workspace SharedStore}
  {Q : α → Workspace SharedStore → Prop} {Q' : β → Workspace SharedStore → Prop}

theorem mono {Q₁ : α → Workspace SharedStore → Prop} (h : Succeeds o x w Q)
    (hQ : ∀ a w', Q a w' → Q₁ a w') : Succeeds o x w Q₁ := by
  obtain ⟨a, w', hrun, hcalm, ha⟩ := h
  exact ⟨a, w', hrun, hcalm, hQ a w' ha⟩

theorem pure (hw : w.store.IsCalm o) {a : α} (h : Q a w) : Succeeds o (Pure.pure a) w Q :=
  ⟨a, w, rfl, hw, h⟩

theorem bind (h : Succeeds o x w Q)
    (hf : ∀ a w₁, w₁.store.IsCalm o → Q a w₁ → Succeeds o (f a) w₁ Q') :
    Succeeds o (x >>= f) w Q' := by
  obtain ⟨a, w₁, hrun, hcalm, ha⟩ := h
  obtain ⟨b, w', hrun', hcalm', hb⟩ := hf a w₁ hcalm ha
  exact ⟨b, w', (run_bind_of_ok hrun).trans hrun', hcalm', hb⟩

theorem known_bind {f : Definition → Reconciliation SharedStore β}
    (h : Succeeds o (f w.definition) w Q') : Succeeds o (known >>= f) w Q' := h

theorem setDefinition (hw : w.store.IsCalm o) {g : Definition → Definition}
    {Q : PUnit → Workspace SharedStore → Prop}
    (h : Q ⟨⟩ { w with definition := g w.definition }) : Succeeds o (setDefinition g) w Q :=
  ⟨⟨⟩, _, rfl, hw, h⟩

/-- The other branch is not taken. -/
theorem attempt_bind {f : Except SchemaError α → Reconciliation SharedStore β}
    (h : Succeeds o x w Q)
    (hf : ∀ a w₁, w₁.store.IsCalm o → Q a w₁ → Succeeds o (f (.ok a)) w₁ Q') :
    Succeeds o (attempt x >>= f) w Q' := by
  obtain ⟨a, w₁, hrun, hcalm, ha⟩ := h
  obtain ⟨b, w', hrun', hcalm', hb⟩ := hf a w₁ hcalm ha
  exact ⟨b, w', (run_bind_of_ok (run_attempt hrun)).trans hrun', hcalm', hb⟩

/-- A call is made in time. -/
theorem bounded {call : SharedStore → Except StoreError α × SharedStore}
    (hw : w.store.IsCalm o) {a : α} {s : SharedStore} (hcall : call w.store = (.ok a, s))
    (hs : s.IsCalm o) (h : ∀ elapsed, Q a { w with store := s, elapsed }) :
    Succeeds o (bounded o.statementTimeout call) w Q := by
  exact ⟨a, _, run_bounded hw.fast hcall, hs, h _⟩

end Succeeds

namespace SharedStore

variable {o : Options} {s : SharedStore} (hs : s.IsCalm o)
include hs

/-- Tables, journal and counter of a calm store may change. -/
theorem IsCalm.change (tables : Catalog) (executed : List String) (structureQueries : Nat)
    (acts : List Act) : IsCalm o
      { s with memory := { s.memory with tables, executed, structureQueries }, acts } where
  undisturbed := ⟨hs.undisturbed.turns, hs.undisturbed.writes⟩
  up := ⟨hs.up.online, hs.up.noNext, hs.up.noText⟩
  fast := hs.fast

/-- Nothing stands between an execution and its text. -/
theorem execute_eq_runText (sql : String) :
    (Store.execute sql s : Except StoreError Unit × SharedStore) =
      (s.note s.memory).call fun m => m.runText sql := by
  have hland : s.memory.landWrite = s.memory := by
    rw [MemoryStore.landWrite, hs.undisturbed.writes]
  have hrun := MemoryStore.executeUndisturbed_eq_runText hs.up.noNext
    (hs.up.textFailure?_eq_none sql)
  show execute sql s = _
  rw [execute, takeTurn_of_undisturbed hs.undisturbed, hland]
  simp [hs.up.online, call, note, hrun]

theorem columns_calm (p : TablePlace) : ∃ s' : SharedStore,
    (Store.columns p.1 p.2 s : Except StoreError _ × SharedStore) = (.ok (s.tables.find? p), s') ∧
      s'.IsCalm o ∧ s'.tables = s.tables := by
  refine ⟨_, ?_, hs.change s.tables s.memory.executed (s.memory.structureQueries + 1) s.acts, rfl⟩
  show s.takeTurn.call (fun m => m.columns p) = _
  rw [takeTurn_of_undisturbed hs.undisturbed, call]
  simp [MemoryStore.columns, hs.up.online, tables]

/-- Without failures and other writers, a text has the effect that the catalog gives it. -/
theorem execute_calm {sql : String} {t : Catalog} (h : s.tables.run sql = .ok t) :
    ∃ s' : SharedStore,
      (Store.execute sql s : Except StoreError Unit × SharedStore) = (.ok (), s') ∧
        s'.IsCalm o ∧ s'.tables = t := by
  change s.memory.tables.run sql = .ok t at h
  refine ⟨_, ?_, hs.change t (s.memory.executed ++ [sql]) s.memory.structureQueries
    (s.acts ++ [⟨s.memory, s.memory⟩]), rfl⟩
  rw [execute_eq_runText hs]
  simp [call, note, MemoryStore.runText, h]

theorem execute_calm_error {sql : String} {e : StoreError} (h : s.tables.run sql = .error e) :
    ∃ s' : SharedStore,
      (Store.execute sql s : Except StoreError Unit × SharedStore) = (.error e, s') ∧
        s'.IsCalm o ∧ s'.tables = s.tables := by
  change s.memory.tables.run sql = .error e at h
  refine ⟨_, ?_, hs.change s.tables s.memory.executed s.memory.structureQueries
    (s.acts ++ [⟨s.memory, s.memory⟩]), rfl⟩
  rw [execute_eq_runText hs]
  simp [call, note, MemoryStore.runText, h, tables]

theorem comment_calm {p : TablePlace} {column text : String} {t : Catalog}
    (h : s.tables.comment p column text = .ok t) : ∃ s' : SharedStore,
      (Store.comment p.1 p.2 column text s : Except StoreError Unit × SharedStore) = (.ok (), s') ∧
        s'.IsCalm o ∧ s'.tables = t := by
  change s.memory.tables.comment p column text = .ok t at h
  refine ⟨_, ?_, hs.change t s.memory.executed s.memory.structureQueries s.acts, rfl⟩
  show s.takeTurn.call (fun m => m.comment p column text) = _
  rw [takeTurn_of_undisturbed hs.undisturbed, call]
  simp [MemoryStore.comment, hs.up.online, h]

end SharedStore

namespace Request

variable {o : Options} {r : Request} {createRest addRest : List Template}
  {w : Workspace SharedStore}

/-! ## Statements -/

/-- After a question, what is known is what the table has. -/
theorem refresh_calm (hw : w.store.IsCalm o) :
    Succeeds o (r.refresh o) w fun _ w' => w'.store.tables = w.store.tables ∧
      w'.definition = .ofColumns o (w.store.columnsAt (r.place o)) := by
  obtain ⟨s', hcall, hs', htables⟩ := columns_calm hw (r.place o)
  refine .bind (.bounded hw hcall hs' fun _ => ⟨rfl, rfl, rfl⟩ :
    Succeeds o _ w fun stored w₁ => stored = w.store.tables.find? (r.place o) ∧ w₁.store = s' ∧
      w₁.definition = w.definition) ?_
  rintro stored w₁ hw₁ ⟨rfl, hstore, _⟩
  refine .setDefinition hw₁ ⟨?_, rfl⟩
  show w₁.store.tables = _
  rw [hstore, htables]

theorem runTemplate_calm (hw : w.store.IsCalm o) {c : Template.Context} {template : Template}
    {sql : String} {t : Catalog} (hrender : template.render c = .ok sql)
    (hrun : w.store.tables.run sql = .ok t) :
    Succeeds o (runTemplate o c template) w fun _ w' => w'.store.tables = t ∧
      w'.definition = w.definition := by
  obtain ⟨s', hcall, hs', htables⟩ := execute_calm hw hrun
  unfold runTemplate
  rw [hrender]
  exact .bounded hw hcall hs' fun _ => ⟨htables, rfl⟩

/-- Statements behind the first leave the columns alone. -/
theorem harmless_calm (hw : w.store.IsCalm o) {c : Template.Context}
    {templates : List Template} (h : ∀ template ∈ templates, template.IsHarmless c)
    (hstands : c.Stands w.store.tables) :
    Succeeds o (templates.forM (runTemplate o c)) w fun _ w' =>
      w'.store.columnsAt c.place = w.store.columnsAt c.place ∧ w'.definition = w.definition := by
  induction templates generalizing w with
  | nil => exact .pure hw ⟨rfl, rfl⟩
  | cons template templates ih =>
    obtain ⟨sql, t, hrender, hrun, hcolumns⟩ := h template List.mem_cons_self _ hstands
    refine .bind (runTemplate_calm hw hrender hrun) ?_
    rintro _ w₁ hw₁ ⟨htables, hdefinition⟩
    have hcolumns₁ : w₁.store.columnsAt c.place = w.store.columnsAt c.place := by
      rw [columnsAt, htables, hcolumns, columnsAt]
    refine (ih hw₁ (fun t ht => h t (List.mem_cons_of_mem _ ht)) ?_).mono ?_
    · refine hstands.mono ?_
      show w.store.columnsAt c.place <+: w₁.store.columnsAt c.place
      exact hcolumns₁ ▸ List.prefix_rfl
    · rintro _ w' ⟨hcolumns', hdefinition'⟩
      exact ⟨hcolumns'.trans hcolumns₁, hdefinition'.trans hdefinition⟩

/-- Tags among the last columns are marked. -/
theorem marks_calm (hw : w.store.IsCalm o) {tags : List Column} {old own : List StoredColumn}
    (hcolumns : w.store.columnsAt (r.place o) = old ++ own)
    (hown : (own.map StoredColumn.name).Nodup)
    (htags : ∀ c ∈ tags, c.name ∈ own.map StoredColumn.name ∧ c.name ∉ old.map StoredColumn.name) :
    Succeeds o (tags.forM fun c => Reconciliation.bounded o.statementTimeout
        (Store.comment o.namespaceName r.table c.name tagComment)) w fun _ w' =>
      w'.store.columnsAt (r.place o) = old ++ markNames (tags.map Column.name) own ∧
        w'.definition = w.definition := by
  induction tags generalizing w own with
  | nil => exact .pure hw ⟨by rw [hcolumns, List.map_nil, markNames_nil], rfl⟩
  | cons c cs ih =>
    obtain ⟨hname, hnew⟩ := htags c List.mem_cons_self
    have hcomment : w.store.tables.comment (r.place o) c.name tagComment =
        .ok (w.store.tables.insert (r.place o) (old ++ markNames [c.name] own ++ [])) :=
      Catalog.comment_tag (by rw [List.append_nil]; exact hcolumns) hown hname hnew
    obtain ⟨s', hcall, hs', htables⟩ := comment_calm hw hcomment
    refine .bind (.bounded hw hcall hs' fun _ => ⟨rfl, rfl⟩ :
      Succeeds o _ w fun _ w₁ => w₁.store = s' ∧ w₁.definition = w.definition) ?_
    rintro _ w₁ hw₁ ⟨rfl, hdefinition⟩
    have hcolumns₁ : w₁.store.columnsAt (r.place o) = old ++ markNames [c.name] own := by
      rw [columnsAt, htables, Catalog.columnsAt_insert_self, List.append_nil]
    refine (ih hw₁ hcolumns₁ (by simpa using hown) fun d hd => ?_).mono ?_
    · simpa using htags d (List.mem_cons_of_mem _ hd)
    · rintro _ w' ⟨hcolumns', hdefinition'⟩
      refine ⟨?_, hdefinition'.trans hdefinition⟩
      rw [hcolumns', markNames_cons, List.map_cons]

/-- Where the first statement takes effect all statements do. -/
theorem carryOut_calm (hw : w.store.IsCalm o) {cs allColumns : List Column} {first : Template}
    {rest : List Template} (hnames : (cs.map Column.name).Nodup)
    (hfirst : first.Adds (r.context o cs allColumns))
    (hrest : ∀ template ∈ rest, template.IsHarmless (r.context o cs allColumns))
    (heffect : ∃ sql t, first.render (r.context o cs allColumns) = .ok sql ∧
      w.store.tables.run sql = .ok t) :
    Succeeds o (r.carryOut o (first :: rest) cs allColumns) w fun _ w' =>
      w'.store.columnsAt (r.place o) =
        w.store.columnsAt (r.place o) ++ cs.map Column.marked ∧ w'.definition = w.definition := by
  obtain ⟨sql, t, hrender, hrun⟩ := heffect
  obtain ⟨hfresh, htables⟩ := hfirst sql _ _ hrender hrun
  have hcolumns : t.columnsAt (r.place o) =
      w.store.columnsAt (r.place o) ++ cs.map Column.stored := by
    rw [htables]
    exact Catalog.columnsAt_insert_self ..
  have hstatements : Succeeds o
      ((first :: rest).forM (runTemplate o (r.context o cs allColumns))) w fun _ w₁ =>
        w₁.store.columnsAt (r.place o) =
          w.store.columnsAt (r.place o) ++ cs.map Column.stored ∧ w₁.definition = w.definition := by
    refine .bind (runTemplate_calm hw hrender hrun) ?_
    rintro _ w₁ hw₁ ⟨htables₁, hdefinition₁⟩
    have hcolumns₁ : w₁.store.columnsAt (r.place o) = t.columnsAt (r.place o) := by
      rw [columnsAt, htables₁]
    refine (harmless_calm hw₁ hrest fun c hc => ?_).mono ?_
    · show c.stored ∈ w₁.store.columnsAt (r.place o)
      rw [hcolumns₁, hcolumns]
      exact List.mem_append_right _ (List.mem_map.2 ⟨c, hc, rfl⟩)
    · rintro _ w₂ ⟨hcolumns₂, hdefinition₂⟩
      exact ⟨(hcolumns₂.trans hcolumns₁).trans hcolumns, hdefinition₂.trans hdefinition₁⟩
  refine .bind hstatements ?_
  rintro _ w₁ hw₁ ⟨hcolumns₁, hdefinition₁⟩
  have hstored : (cs.map Column.stored).map StoredColumn.name = cs.map Column.name := by simp
  refine (marks_calm hw₁ hcolumns₁ (by rw [hstored]; exact hnames) fun c hc => ?_).mono ?_
  · have hc := (List.mem_filter.1 hc).1
    refine ⟨?_, hfresh c hc⟩
    rw [hstored]
    exact List.mem_map.2 ⟨c, hc, rfl⟩
  · rintro _ w' ⟨hcolumns', hdefinition'⟩
    refine ⟨?_, hdefinition'.trans hdefinition₁⟩
    rw [hcolumns', markNames_tags hnames]

/-! ## Effective requests -/

/-- The first statements take effect where there is no table, and where there is a table
without the column. -/
structure IsEffective (o : Options) (r : Request) : Prop where
  create : ∀ first rest, r.createTemplates = first :: rest → ∀ cs allColumns, r.Wants cs →
    cs ≠ [] → ∀ t : Catalog, ¬ t.contains (r.place o) = true →
      ∃ sql t', first.render (r.context o cs allColumns) = .ok sql ∧ t.run sql = .ok t'
  add : ∀ first rest, r.addColumnTemplates = first :: rest → ∀ c ∈ r.required, ∀ allColumns,
    ∀ t : Catalog, t.columnsAt (r.place o) ≠ [] →
      c.name ∉ (t.columnsAt (r.place o)).map StoredColumn.name →
      ∃ sql t', first.render (r.context o [c] allColumns) = .ok sql ∧ t.run sql = .ok t'

/-- The default templates in front take effect. -/
theorem isEffective_of_defaults (hrecovered : ∀ c ∈ r.required, c.IsRecovered o)
    (hcreate : r.createTemplates = .createTable :: createRest)
    (hadd : r.addColumnTemplates = .addColumn :: addRest) : r.IsEffective o where
  create first rest hfirst cs allColumns hcs hne t hlacks := by
    obtain ⟨rfl, _⟩ := List.cons.inj (hcreate.symm.trans hfirst)
    have hrender := Template.render_createTable (r.context o cs allColumns)
    refine ⟨_, _, hrender, (Catalog.run_createTable hrender hne hcs.names ?_).trans (if_neg hlacks)⟩
    exact fun c hc => (hrecovered c (hcs.subset hc)).type
  add first rest hfirst c hc allColumns t hne hnew := by
    obtain ⟨rfl, _⟩ := List.cons.inj (hadd.symm.trans hfirst)
    have hrender := Template.render_addColumn (r.context o [c] allColumns)
    have hrun := Catalog.run_addColumn (t := t) hrender rfl (hrecovered c hc).type
    cases hfind : t.find? (r.place o) with
    | none => simp [Catalog.columnsAt, hfind] at hne
    | some columns =>
      rw [Catalog.columnsAt_of_find? hfind] at hnew
      have hplace : (r.context o [c] allColumns).place = r.place o := rfl
      rw [hplace, hfind] at hrun
      exact ⟨_, _, hrender, hrun.trans (if_neg (by simp [Catalog.hasColumn_eq_false hnew]))⟩

variable (hr : r.IsSound o createRest addRest) (he : r.IsEffective o)
include hr he

theorem addColumn_calm (hw : w.store.IsCalm o) {c : Column} (hc : c ∈ r.required)
    (hne : w.store.columnsAt (r.place o) ≠ [])
    (hnew : c.name ∉ (w.store.columnsAt (r.place o)).map StoredColumn.name) :
    Succeeds o (r.tryAddColumn o c) w fun added w' => added = true ∧
      w'.store.columnsAt (r.place o) = w.store.columnsAt (r.place o) ++ [c.marked] := by
  obtain ⟨first, hfirst, hadd⟩ := hr.add
  have hcarry : Succeeds o (r.addColumn o c) w fun _ w' =>
      w'.store.columnsAt (r.place o) = w.store.columnsAt (r.place o) ++ [c.marked] := by
    unfold addColumn
    rw [hfirst]
    refine .known_bind (.bind (carryOut_calm hw (List.nodup_singleton _) (hadd c hc _).1
      (hadd c hc _).2 (he.add first addRest hfirst c hc _ _ hne hnew)) ?_)
    rintro _ w₁ hw₁ ⟨hcolumns, _⟩
    exact .setDefinition hw₁ hcolumns
  exact .attempt_bind hcarry fun _ w₁ hw₁ hcolumns => .pure hw₁ ⟨rfl, hcolumns⟩

/-- On a calm store every column that is new to the table can be added. -/
theorem addColumns_calm (hw : w.store.IsCalm o) {cs : List Column} (hcs : cs ⊆ r.required)
    (hne : w.store.columnsAt (r.place o) ≠ [])
    (hfresh : Fresh cs (w.store.columnsAt (r.place o))) :
    Succeeds o (r.addColumns o cs) w fun failed _ => failed = [] := by
  induction cs generalizing w with
  | nil => exact .pure hw rfl
  | cons c cs ih =>
    refine .bind (addColumn_calm hr he hw (hcs List.mem_cons_self) hne
      (hfresh.new c List.mem_cons_self)) ?_
    rintro _ w₁ hw₁ ⟨rfl, hcolumns⟩
    have hfresh₁ : Fresh cs (w₁.store.columnsAt (r.place o)) := hcolumns ▸ hfresh.marked
    have hcs₁ : cs ⊆ r.required := fun d hd => hcs (List.mem_cons_of_mem _ hd)
    refine .bind (ih hw₁ hcs₁ (by simp [hcolumns]) hfresh₁) ?_
    rintro failed w₂ hw₂ rfl
    exact .pure hw₂ rfl

/-- On a calm store only what cannot be added stays missing. -/
theorem extend_calm (hw : w.store.IsCalm o) {g : Gap} (hg : g.addable ⊆ r.required)
    (hne : w.store.columnsAt (r.place o) ≠ [])
    (hfresh : Fresh g.addable (w.store.columnsAt (r.place o))) :
    Succeeds o (r.extend o g) w fun missing _ => missing = Column.sort g.missing := by
  obtain ⟨first, hfirst, _⟩ := hr.add
  unfold extend
  rw [hfirst]
  split
  · exact .pure hw rfl
  · refine .bind (addColumns_calm hr he hw hg hne hfresh) ?_
    rintro failed w₁ hw₁ rfl
    exact .pure hw₁ (by rw [List.append_nil])

/-- On a calm store a table that is not there is created, with all that can be added. -/
theorem create_calm (hw : w.store.IsCalm o) {required : List Column} {g : Gap}
    (hg : r.Wants g.addable) (hne : g.addable ≠ [])
    (hlacks : ¬ w.store.tables.contains (r.place o) = true) :
    Succeeds o (r.create o required g) w fun missing _ => missing = Column.sort g.missing := by
  obtain ⟨first, hfirst, hcreate⟩ := hr.create
  obtain ⟨hadds, hharmless⟩ := hcreate g.addable g.addable hg hne
  have heffect := he.create first createRest hfirst g.addable g.addable hg hne _ hlacks
  have htable : Succeeds o (r.createTable o g.addable) w fun _ _ => True := by
    unfold createTable
    rw [hfirst]
    exact .attempt_bind (carryOut_calm hw hg.names hadds hharmless heffect)
      fun _ w₁ hw₁ _ => .setDefinition hw₁ trivial
  exact .attempt_bind htable fun _ w₁ hw₁ _ => .pure hw₁ rfl

/-- A table that has columns is extended, and a table that is not there is created. -/
theorem change_calm (hw : w.store.IsCalm o) {required : List Column}
    (hrequired : required.Perm r.required)
    (hproper : w.store.tables.ProperAt (r.place o))
    (hfits : w.store.columnsAt (r.place o) = [] →
      Identifier.fits o.identifierMaxBytes r.table = true)
    (hdefinition : w.definition = .ofColumns o (w.store.columnsAt (r.place o))) :
    Succeeds o (r.change o required) w fun missing _ => missing =
      Column.sort (w.definition.gap o.identifierMaxBytes required).missing := by
  obtain ⟨first, hfirst, _⟩ := hr.create
  have hwants : r.Wants (w.definition.gap o.identifierMaxBytes required).addable :=
    wants_gap hr.names hrequired
  refine .known_bind ?_
  dsimp only
  split
  next hknown =>
    refine extend_calm hr he hw hwants.subset (fun hnil => ?_)
      (fresh_gap hr.names hrequired hdefinition)
    rw [hdefinition, hnil] at hknown
    cases hknown
  next hknown =>
    have hnil : w.store.columnsAt (r.place o) = [] := by
      rw [hdefinition] at hknown
      exact Definition.eq_nil_of_isKnown_ofColumns (by simpa using hknown)
    rw [hfirst, List.isEmpty_cons, if_neg (by simp), hfits hnil, if_neg (by simp)]
    split
    · exact .pure hw rfl
    next hempty =>
      refine create_calm hr he hw hwants (by simpa using hempty) fun hcontains => ?_
      obtain ⟨columns, hfind⟩ := Option.isSome_iff_exists.1 hcontains
      have hcolumns : columns = [] := (Catalog.columnsAt_of_find? hfind).symm.trans hnil
      exact hproper (hcolumns ▸ hfind)

/-- On a calm store a request reports what the columns of the table conflict with, and the
names that are too long. -/
theorem ensure_calm (hw : w.store.IsCalm o)
    (hproper : w.store.tables.ProperAt (r.place o))
    (hfits : w.store.columnsAt (r.place o) = [] →
      Identifier.fits o.identifierMaxBytes r.table = true)
    (hsettled : ∀ missing, r.settled? o (Column.sort r.required) w.definition = some missing →
      w.definition = .ofColumns o (w.store.columnsAt (r.place o))) :
    (r.ensure o w).1 = .ok (Column.sort
      ((Definition.ofColumns o (w.store.columnsAt (r.place o))).gap o.identifierMaxBytes
        (Column.sort r.required)).missing) := by
  have hrequired : (Column.sort r.required).Perm r.required := Column.sort_perm _
  have hensure : Succeeds o (r.ensure o) w fun missing _ => missing =
      Column.sort ((Definition.ofColumns o (w.store.columnsAt (r.place o))).gap
        o.identifierMaxBytes (Column.sort r.required)).missing := by
    unfold ensure
    refine .known_bind ?_
    cases hcases : r.settled? o (Column.sort r.required) w.definition with
    | some missing =>
      refine .pure hw ?_
      obtain ⟨first, hfirst, _⟩ := hr.add
      have hdefinition := hsettled missing hcases
      rw [settled?_eq (by simp [hfirst])] at hcases
      split at hcases
      · cases hcases
        rw [← hdefinition]
      · cases hcases
    | none =>
      refine .bind (refresh_calm hw) ?_
      rintro _ w₁ hw₁ ⟨htables, hdefinition⟩
      have hcolumns : w₁.store.columnsAt (r.place o) = w.store.columnsAt (r.place o) := by
        rw [columnsAt, htables, columnsAt]
      refine (change_calm hr he hw₁ hrequired (htables ▸ hproper) (hcolumns ▸ hfits)
        (by rw [hdefinition, hcolumns])).mono ?_
      rintro missing w' rfl
      rw [hdefinition]
  obtain ⟨missing, w', hrun, _, rfl⟩ := hensure
  rw [hrun]

end Request

end MetricTables
