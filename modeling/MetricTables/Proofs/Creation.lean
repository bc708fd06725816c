import MetricTables.Proofs.Locality
import MetricTables.Proofs.Reconcile.Effect

/-!
# Tables that are created

Where no table is, a request with the default templates creates one that has all the columns
that are required. So a batch that comes to a store without its tables loses nothing.

## Main definitions

* `Request.Fits`, `Matching.Fits` — names are short enough for the store.
* `Manager.Created` — what the creation of a table leaves.
* `Matching.requests` — what the tables of a batch have to have.

## Main statements

* `Manager.ensure_creates` — a table that is not there is created.
* `Matching.matchBatch_creates` — a batch without tables gets them, and loses nothing.
-/

namespace MetricTables

open Reconciliation

namespace Request

variable {o : Options} {r : Request} {w : Workspace MemoryStore}

/-- A request for a table that may be created with all that is required. -/
structure Fits (o : Options) (r : Request) : Prop where
  names : (r.required.map Column.name).Nodup
  table : Identifier.fits o.identifierMaxBytes r.table = true
  columns : ∀ c ∈ r.required, Identifier.fits o.identifierMaxBytes c.name = true
  nonempty : r.required ≠ []
  key : r.createTemplates = [.createTagTable] → ∃ c ∈ r.required, c.role = .tagId

/-- An unknown table lacks all that is required. -/
theorem Fits.gap_eq (h : r.Fits o) {cs : List Column} (hcs : cs.Perm r.required) :
    Definition.unknown.gap o.identifierMaxBytes cs = { addable := cs, missing := [] } := by
  have hfits : ∀ c ∈ cs, Identifier.fits o.identifierMaxBytes c.name = true :=
    fun c hc => h.columns c (hcs.subset hc)
  rw [gap_of_not_isKnown Definition.isKnown_unknown, List.filter_eq_self.2 hfits,
    List.filter_eq_nil_iff.2 fun c hc => by simp [hfits c hc]]

/-- One statement creates the table. -/
theorem exists_creation (hr : r.IsPlain) (hfits : r.Fits o) {t : Catalog}
    (hnew : t.find? (r.place o) = none) {cs : List Column} (hcs : cs.Perm r.required) :
    ∃ template sql, r.createTemplates = [template] ∧
      template.render (r.context o cs cs) = .ok sql ∧
      t.run sql = .ok (t.insert (r.place o) (cs.map Column.stored)) := by
  have hne : cs ≠ [] := fun hnil => hfits.nonempty (List.nil_perm.1 (hnil ▸ hcs))
  have hnames : (cs.map Column.name).Nodup := (hcs.map _).nodup_iff.2 hfits.names
  have htypes : ∀ c ∈ cs, ∀ s, c.type ≠ .other s := fun c hc => hr.types c (hcs.subset hc)
  have hplace : (r.context o cs cs).place = r.place o := rfl
  have hlacks : t.contains (r.place o) = false := by simp [KeyMap.contains, hnew]
  rcases hr.create with hcreate | hcreate
  · have hrender := Template.render_createTable (r.context o cs cs)
    refine ⟨_, _, hcreate, hrender, ?_⟩
    rw [Catalog.run_createTable hrender hne hnames htypes, hplace, hlacks]
    rfl
  · have hrender := Template.render_createTagTable (r.context o cs cs)
    obtain ⟨c, hc, hrole⟩ := hfits.key hcreate
    refine ⟨_, _, hcreate, hrender, ?_⟩
    rw [Catalog.run_createTagTable hrender ⟨c, hcs.symm.subset hc, hrole⟩ hnames htypes, hplace,
      hlacks]
    rfl

/-- What is left once one statement created the table with all that is required. -/
def established (o : Options) (r : Request) (w : Workspace MemoryStore) (sql : String) :
    Workspace MemoryStore :=
  { w with
    store := { w.store with
      tables := w.store.tables.insert (r.place o) ((Column.sort r.required).map Column.marked)
      executed := w.store.executed ++ [sql]
      structureQueries := w.store.structureQueries + 1 }
    definition := Definition.unknown.insertAll (Column.sort r.required) }

/-- A table that is not there is created with all that is required. -/
theorem ensure_runs_creation (hr : r.IsPlain) (hfits : r.Fits o) (hw : w.store.IsQuiet o)
    (hunknown : w.definition = .unknown) (hnew : w.store.tables.find? (r.place o) = none) :
    ∃ sql, RunsTo (r.ensure o) w (.ok []) (r.established o w sql) := by
  have hsort : (Column.sort r.required).Perm r.required := Column.sort_perm _
  have hne : (Column.sort r.required).isEmpty = false :=
    List.isEmpty_eq_false_iff.2 fun hnil => hfits.nonempty (List.nil_perm.1 (hnil ▸ hsort))
  obtain ⟨template, sql, hcreate, hrender, hrun⟩ := exists_creation hr hfits hnew hsort
  have hasked : (r.asked o w).definition = .unknown := by
    simp only [asked, hnew]
    rfl
  have htable : RunsTo (r.createTable o (Column.sort r.required)) (r.asked o w) (.ok ⟨⟩)
      (r.established o w sql) := by
    have hcreated := createTable_runs (w := r.asked o w) (hw.change _ _ _) hcreate hrender hrun
      ((hsort.map _).nodup_iff.2 hfits.names)
    rwa [hasked] at hcreated
  have hchange : RunsTo (r.change o (Column.sort r.required)) (r.asked o w) (.ok [])
      (r.established o w sql) := by
    have hcreated : RunsTo (r.create o (Column.sort r.required) ⟨Column.sort r.required, []⟩)
        (r.asked o w) (.ok (Column.sort [])) (r.established o w sql) :=
      .attempt_bind htable (.pure _ _)
    rw [Column.sort_nil] at hcreated
    refine .known_bind ?_
    simp only [hasked, hfits.gap_eq hsort, Definition.isKnown_unknown, hcreate, List.isEmpty_cons,
      hfits.table, hne, Bool.not_true, Bool.false_eq_true, if_false]
    exact hcreated
  have hsettled : r.settled? o (Column.sort r.required) w.definition = none := by
    simp [settled?, hunknown]
  refine ⟨sql, ?_⟩
  unfold ensure
  refine .known_bind ?_
  rw [hsettled]
  exact .bind (refresh_runs hw.responds) hchange

end Request

/-! ## One table of a manager -/

namespace Manager

variable {o : Options} {r : Request} {m m' : Manager MemoryStore} {table : String}

/-- A table that is neither in the store nor known. -/
def Lacks (o : Options) (m : Manager MemoryStore) (table : String) : Prop :=
  m.store.tables.find? (o.namespaceName, table) = none ∧ m.cache.definition table = .unknown

/-- A table that has what is required and no more, in the store as well as in the cache. -/
def Has (o : Options) (m : Manager MemoryStore) (r : Request) : Prop :=
  m.store.tables.find? (r.place o) = some ((Column.sort r.required).map Column.marked) ∧
    m.cache.definition r.table = Definition.unknown.insertAll (Column.sort r.required)

/-- A table of which the store and the cache say what they said before. -/
def Alike (o : Options) (m m' : Manager MemoryStore) (table : String) : Prop :=
  m'.store.tables.find? (o.namespaceName, table) = m.store.tables.find? (o.namespaceName, table) ∧
    m'.cache.definition table = m.cache.definition table

theorem Lacks.of_alike (h : m.Lacks o table) (ha : Alike o m m' table) : m'.Lacks o table :=
  ⟨ha.1.trans h.1, ha.2.trans h.2⟩

/-- A table that nothing was done about. -/
theorem ChangesIn.alike {P : TablePlace → Prop} (h : ChangesIn o P m m')
    (hp : ¬ P (o.namespaceName, table)) : Alike o m m' table := by
  refine ⟨h.store.tables _ hp, ?_⟩
  rw [Cache.definition, Cache.definition, h.cache table hp]

theorem Has.of_alike (h : m.Has o r) (ha : Alike o m m' r.table) : m'.Has o r :=
  ⟨ha.1.trans h.1, ha.2.trans h.2⟩

/-- What the creation of a table with all that is required leaves. -/
structure Created (o : Options) (r : Request) (m m' : Manager MemoryStore) : Prop where
  quiet : m'.store.IsQuiet o
  has : m'.Has o r
  others : ∀ table, table ≠ r.table → Alike o m m' table

/-- On a quiet store, a request for a table that is not there creates it with all that it
requires. -/
theorem ensure_creates (hr : r.IsPlain) (hfits : r.Fits o) (hquiet : m.store.IsQuiet o)
    (hnew : m.Lacks o r.table) : ∃ m', m.ensure o r = (.ok [], m') ∧ Created o r m m' := by
  obtain ⟨sql, hruns⟩ := Request.ensure_runs_creation
    (w := { store := m.store, definition := m.cache.definition r.table }) hr hfits hquiet hnew.2
    hnew.1
  obtain ⟨elapsed, hrun⟩ := ensure_of_runsTo hruns
  refine ⟨_, hrun, hquiet.change _ _ _, ⟨?_, ?_⟩, fun table hne => ⟨?_, ?_⟩⟩
  · exact KeyMap.find?_insert_self ..
  · exact Cache.definition_put_self ..
  · exact KeyMap.find?_insert_of_ne _ (fun he => hne (congrArg Prod.snd he)) _
  · exact Cache.definition_put_of_ne _ hne _

/-- A request for a table that was created for another one is refused what does not go with the
columns of that. -/
theorem Has.ensure_answer {r₀ : Request} (h : m.Has o r₀) (htable : r.table = r₀.table)
    (hr₀ : r₀.Fits o) (hrecovered₀ : ∀ c ∈ r₀.required, c.IsRecovered o)
    (hcreate : r.createTemplates = [.createTable]) (hadd : r.addColumnTemplates = [.addColumn])
    (hnames : (r.required.map Column.name).Nodup) (hrecovered : ∀ c ∈ r.required, c.IsRecovered o)
    (hquiet : m.store.IsQuiet o) :
    (m.ensure o r).1 = .ok (r.refused o ((Column.sort r₀.required).map Column.marked)) := by
  have hsort : (Column.sort r₀.required).Perm r₀.required := Column.sort_perm _
  have hplace : r.place o = r₀.place o := congrArg (Prod.mk o.namespaceName) htable
  have hfind : m.store.tables.find? (r.place o) =
      some ((Column.sort r₀.required).map Column.marked) := hplace ▸ h.1
  have hcolumns := Catalog.columnsAt_of_find? hfind
  have hdefinition : m.cache.definition r.table =
      .ofColumns o (m.store.tables.columnsAt (r.place o)) := by
    have hread : Definition.ofColumns o ([] ++ (Column.sort r₀.required).map Column.marked) =
        Definition.unknown.insertAll (Column.sort r₀.required) :=
      Definition.ofColumns_marked fun c hc => hrecovered₀ c (hsort.subset hc)
    rw [List.nil_append] at hread
    rw [hcolumns, hread, htable, h.2]
  have hne : (Column.sort r₀.required).map Column.marked ≠ [] := fun hnil =>
    hr₀.nonempty (List.nil_perm.1 ((List.map_eq_nil_iff.1 hnil) ▸ hsort))
  have hstored : ((m.store.tables.columnsAt (r.place o)).map StoredColumn.name).Nodup := by
    have hmarked : ((Column.sort r₀.required).map Column.marked).map StoredColumn.name =
        (Column.sort r₀.required).map Column.name := by simp
    rw [hcolumns, hmarked, (hsort.map _).nodup_iff]
    exact hr₀.names
  obtain ⟨elapsed, hrun⟩ := ensure_of_runsTo (Request.ensure_runs
    (w := { store := m.store, definition := m.cache.definition r.table }) hquiet hcreate hadd
    (fun hempty => hne (Option.some.inj (hfind.symm.trans hempty))) hstored hnames hrecovered
    (.inr hdefinition))
  rw [hrun]
  simp [Request.effect, Request.contains_of_find? hfind, hcolumns]

end Manager

/-! ## Both tables of a batch -/

namespace Matching

open TableBatch

variable {o : Options} {b : TableBatch} {w : Work MemoryStore}

def requests (o : Options) (b : TableBatch) : List Request :=
  (tagTable? o b).toList.map (tagRequest o b) ++ [metricRequest o b]

theorem tagRequest_mem_requests {tagTable : String} (h : tagTable? o b = some tagTable) :
    tagRequest o b tagTable ∈ requests o b :=
  List.mem_append_left _ (List.mem_map_of_mem (by simp [h]))

/-- The names of tables and columns are short enough for the store, and the tables are two. -/
structure Fits (o : Options) (b : TableBatch) : Prop where
  tables : ∀ table ∈ tables o b, Identifier.fits o.identifierMaxBytes table = true
  columns : ∀ c, b.Needs o c → Identifier.fits o.identifierMaxBytes c.name = true
  apart : (Matching.tables o b).Nodup

theorem Fits.ne_tagTable (h : Fits o b) {tagTable : String}
    (htable : tagTable? o b = some tagTable) : b.name ≠ tagTable := by
  simpa [Matching.tables, htable] using h.apart

theorem fits_tagRequest (ho : o.HasFixedColumns) (hb : b.Valid o) (h : Fits o b) {tagTable : String}
    (htable : tagTable? o b = some tagTable) : (tagRequest o b tagTable).Fits o where
  names := nodup_tagTableColumns ho hb
  table := h.tables tagTable (by simp [Matching.tables, htable])
  columns c hc := h.columns c (.inr hc)
  nonempty := List.cons_ne_nil _ _
  key _ := ⟨o.tagIdColumn, List.mem_cons_self, ho.tagIdRole⟩

/-- The metric table of a batch that fits can be created as a whole. -/
theorem fits_metricRequest (ho : o.HasFixedColumns) (ht : o.HasDefaultTemplates) (hb : b.Valid o)
    (h : Fits o b) : (metricRequest o b).Fits o where
  names := nodup_metricColumns ho hb
  table := h.tables _ List.mem_cons_self
  columns c hc := h.columns c (.inl hc)
  nonempty := List.cons_ne_nil _ _
  key hcreate := by
    have hplain : (metricRequest o b).createTemplates = [.createTable] :=
      Options.createTemplates_eq ht
    exact absurd (hplain.symm.trans hcreate) (by decide)

section Plain

variable (ho : o.HasFixedColumns) (ht : o.HasDefaultTemplates) (hb : w.batch.Valid o)
  (hfits : Fits o w.batch) (hquiet : w.manager.store.IsQuiet o)
include ho ht hb hfits hquiet

/-- The tag table comes first, and nothing of the batch is given up for it. -/
theorem matchTagTable_creates
    (hnew : ∀ tagTable ∈ tagTable? o w.batch, w.manager.Lacks o tagTable) :
    ∃ m', matchTagTable o w.batch w = (.ok [], { w with manager := m' }) ∧ m'.store.IsQuiet o ∧
      (∀ tagTable ∈ tagTable? o w.batch, m'.Has o (tagRequest o w.batch tagTable)) ∧
      ∀ table ∉ tagTable? o w.batch, Manager.Alike o w.manager m' table := by
  unfold matchTagTable
  cases htable : tagTable? o w.batch with
  | none => exact ⟨w.manager, rfl, hquiet, nofun, fun _ _ => ⟨rfl, rfl⟩⟩
  | some tagTable =>
    obtain ⟨m', hrun, hcreated⟩ := Manager.ensure_creates
      (isPlain_tagRequest ho.hasTypes ht hb tagTable) (fits_tagRequest ho hb hfits htable) hquiet
      (hnew _ htable)
    refine ⟨m', matchTable_complete hrun, hcreated.quiet, fun t ht => ?_,
      fun table hne => hcreated.others table fun he => hne (congrArg some he.symm)⟩
    obtain rfl := Option.some.inj ht
    exact hcreated.has

/-- A batch whose tables are not there gets them, and loses nothing. -/
theorem matchBatch_creates (hnew : ∀ table ∈ tables o w.batch, w.manager.Lacks o table) :
    ∃ m', matchBatch o w = (.ok {}, { w with manager := m' }) ∧ m'.store.IsQuiet o ∧
      ∀ r ∈ requests o w.batch, m'.Has o r := by
  obtain ⟨m₁, htag, hquiet₁, hhas, hothers⟩ := matchTagTable_creates ho ht hb hfits hquiet
    fun tagTable htable => hnew tagTable (by simp [tables, Option.mem_def.1 htable])
  have hlacks : m₁.Lacks o w.batch.name :=
    (hnew _ List.mem_cons_self).of_alike (hothers _ fun htable => hfits.ne_tagTable htable rfl)
  obtain ⟨m', hrun, hcreated⟩ := Manager.ensure_creates (m := m₁)
    (isPlain_metricRequest ho.hasTypes ht hb) (fits_metricRequest ho ht hb hfits) hquiet₁ hlacks
  have hmetric : matchTable o (metricRequest o) { w with manager := m₁ } =
      (.ok [], { w with manager := m' }) := matchTable_complete hrun
  refine ⟨m', ?_, hcreated.quiet, fun r hr => ?_⟩
  · rw [run_matchBatch, run_bind_of_ok htag, run_bind_of_ok hmetric]
    rfl
  · rcases List.mem_append.1 hr with hr | hr
    · obtain ⟨tagTable, htable, rfl⟩ := List.mem_map.1 hr
      have htable : tagTable? o w.batch = some tagTable := by simpa using htable
      exact (hhas tagTable htable).of_alike (hcreated.others _ (hfits.ne_tagTable htable).symm)
    · rw [List.mem_singleton.1 hr]
      exact hcreated.has

end Plain

end Matching

end MetricTables
