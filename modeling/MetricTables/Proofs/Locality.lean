import MetricTables.Proofs.Losses
import MetricTables.Proofs.Mirror
import MetricTables.Proofs.Store.Locality
import MetricTables.Proofs.TagRows

/-!
# What matching reads and writes

With the default templates, matching a batch reads and writes the table of the batch and its
tag table, in the store as well as in the cache, and nothing else. So two stores that agree
on these tables give the same result, whatever else they hold.

## Main definitions

* `Options.HasTypes` — the fixed columns have types with a spelling.
* `Request.IsPlain` — a request with the default templates.
* `Matching.tables`, `Matching.IsAbout` — the tables that a batch is about, and their places.
* `Manager.SameAt`, `Manager.ChangesIn` — managers that agree at some places, and what a manager is
  like that changed at some places only.

## Main statements

* `Manager.ensure_sameAt`, `Manager.ensure_changesIn` — what bringing a table in step reads and
  writes.
* `Matching.matchBatch_sameAt`, `Matching.matchBatch_changesIn`, `Matching.matchBatch_local` — what
  matching a batch reads and writes.
-/

namespace MetricTables

open Reconciliation

/-! ## Columns with types that have a spelling -/

namespace Options

/-- The fixed columns have types with a spelling, as in every layout of a configuration
(`hasTypes_ofConfig`). -/
structure HasTypes (o : Options) : Prop where
  time : ∀ s, o.timeColumn.type ≠ .other s
  tagId : ∀ s, o.tagIdColumn.type ≠ .other s

/-- Every configuration gives the fixed columns types with a spelling. -/
theorem hasTypes_ofConfig {c : SchemaConfig} {o : Options} (h : ofConfig c = .ok o) :
    o.HasTypes := by
  obtain ⟨_, _, _, _, _, htime, htagId, _⟩ := ofConfig_eq_ok h
  refine ⟨fun s => ?_, fun s => by simp [htagId]⟩
  rw [htime]
  cases c.timestampColumnType <;> simp [timestampType]

theorem HasFixedColumns.hasTypes {o : Options} (h : o.HasFixedColumns) : o.HasTypes :=
  ⟨h.timeType, h.tagIdType⟩

end Options

namespace TableBatch

theorem ofConfig_keyed : Options.ofConfig { tagsAsForeignKeys := true } = .ok keyed := by
  obtain ⟨hcreate, htagCreate, hadd⟩ := Options.readTemplates_default
  simp only [Options.ofConfig, hcreate, htagCreate, hadd]
  rfl

theorem hasFixedColumns_keyed : keyed.HasFixedColumns :=
  Options.hasFixedColumns_ofConfig ofConfig_keyed (by simp) (by simp)

theorem hasTypes_keyed : keyed.HasTypes := Options.hasTypes_ofConfig ofConfig_keyed

theorem hasDefaultTemplates_keyed : keyed.HasDefaultTemplates :=
  Options.hasDefaultTemplates_ofConfig ofConfig_keyed rfl rfl rfl rfl

variable {o : Options} {b : TableBatch} {c : Column}

theorem type_of_mem_tagPart (hb : b.Valid o) (hc : c ∈ b.tagPart o) : ∀ s, c.type ≠ .other s := by
  unfold tagPart at hc
  split at hc
  · rw [List.mem_singleton.1 hc]
    simp [Options.tagsJsonColumn]
  · exact (hb.tags c hc).2.1

theorem type_of_mem_fieldPart (hb : b.Valid o) (hc : c ∈ b.fieldPart o) :
    ∀ s, c.type ≠ .other s := by
  unfold fieldPart at hc
  split at hc
  · rw [List.mem_singleton.1 hc]
    simp [Options.fieldsJsonColumn]
  · exact (hb.fields c hc).2.1

theorem type_of_needs (ho : o.HasTypes) (hb : b.Valid o)
    (hc : c ∈ b.metricColumns o ∨ c ∈ b.tagTableColumns o) : ∀ s, c.type ≠ .other s := by
  have hany : c = o.timeColumn ∨ c = o.tagIdColumn ∨ c ∈ b.tagPart o ∨ c ∈ b.fieldPart o := by
    rw [mem_metricColumns, tagTableColumns, List.mem_cons] at hc
    tauto
  rcases hany with rfl | rfl | hc | hc
  · exact ho.time
  · exact ho.tagId
  · exact type_of_mem_tagPart hb hc
  · exact type_of_mem_fieldPart hb hc

end TableBatch

/-! ## One table -/

namespace Request

variable {o : Options} {r : Request} {P : TablePlace → Prop}

/-- A request with the default templates, for columns of types that have a spelling. -/
structure IsPlain (r : Request) : Prop where
  types : ∀ c ∈ r.required, ∀ s, c.type ≠ .other s
  create : r.createTemplates = [.createTable] ∨ r.createTemplates = [.createTagTable]
  add : r.addColumnTemplates = [.addColumn]

/-- What is rendered for columns that are required acts at the place of the table. -/
def IsLocal (o : Options) (r : Request) (cs allColumns : List Column) (template : Template) :
    Prop :=
  ∀ sql, template.render (r.context o cs allColumns) = .ok sql →
    Catalog.ActsAt (r.place o) fun t => t.run sql

theorem IsPlain.isLocal_create (hr : r.IsPlain) {cs : List Column} (hcs : r.Creates o cs) :
    ∀ template ∈ r.createTemplates, r.IsLocal o cs cs template := by
  have htypes : ∀ c ∈ cs, ∀ s, c.type ≠ .other s := fun c hc => hr.types c (hcs.adds hc).required
  intro template htemplate sql hrender
  rcases hr.create with hcreate | hcreate
  · rw [hcreate, List.mem_singleton] at htemplate
    exact Template.createTable_actsAt hcs.nonempty htypes (htemplate ▸ hrender)
  · rw [hcreate, List.mem_singleton] at htemplate
    exact Template.createTagTable_actsAt hcs.nonempty htypes (htemplate ▸ hrender)

theorem IsPlain.isLocal_add (hr : r.IsPlain) {c : Column} (hc : r.Adds o c)
    (allColumns : List Column) :
    ∀ template ∈ r.addColumnTemplates, r.IsLocal o [c] allColumns template := by
  intro template htemplate sql hrender
  rw [hr.add, List.mem_singleton] at htemplate
  exact Template.addColumn_actsAt rfl (hr.types c hc.required) (htemplate ▸ hrender)

/-- The same definition, on stores that agree at some places. -/
structure SameAt (P : TablePlace → Prop) (w v : Workspace MemoryStore) : Prop where
  store : w.store.SameAt P v.store
  definition : w.definition = v.definition

/-- A limit cuts both calls off at once, as they take the same time. -/
theorem agree_bounded {α : Type} {limit : Duration}
    {call : MemoryStore → Except StoreError α × MemoryStore}
    (h : ∀ {s t : MemoryStore}, s.SameAt P t →
      (call s).1 = (call t).1 ∧ (call s).2.SameAt P (call t).2) :
    Agree (SameAt P) (bounded limit call) (bounded limit call) := by
  intro w v hw
  have hlatency : Store.latency w.store = Store.latency v.store := hw.store.latency
  obtain ⟨hanswer, hsame⟩ := h hw.store
  unfold bounded
  rw [← hlatency]
  split
  · exact ⟨rfl, hw.store, hw.definition⟩
  · exact ⟨congrArg (Except.mapError SchemaError.store) hanswer, hsame, hw.definition⟩

/-- A request gives the same result on stores that agree at its place. -/
theorem IsPlain.agrees (hr : r.IsPlain) (hp : P (r.place o)) : r.Agrees (SameAt P) o := by
  have hcarryOut : ∀ {templates cs allColumns},
      (∀ template ∈ templates, r.IsLocal o cs allColumns template) →
        Agree (SameAt P) (r.carryOut o templates cs allColumns)
          (r.carryOut o templates cs allColumns) := fun hlocal =>
    agree_carryOut
      (fun template htemplate => agree_runTemplate fun sql hrender =>
        agree_bounded (MemoryStore.execute_sameAt hp (hlocal template htemplate sql hrender)))
      fun name => agree_bounded (MemoryStore.comment_sameAt hp name tagComment)
  exact
    { definition := fun h => h.definition
      setDefinition := fun f w v h => ⟨rfl, h.store, congrArg f h.definition⟩
      columns := agree_bounded (MemoryStore.columns_sameAt hp)
      create := fun cs hcs => hcarryOut (hr.isLocal_create hcs)
      add := fun c hc allColumns => hcarryOut (hr.isLocal_add hc allColumns) }

/-- A store that nobody else plans to write to changes at some places only. -/
def within (P : TablePlace → Prop) : Frame MemoryStore where
  allows s t := s.otherWrites = [] → s.ChangesIn P t
  refl _ := .refl P
  trans h h' hs := (h hs).trans (h' (h hs).otherWrites)

/-- With the default templates, what a request does happens at its own table. -/
theorem IsPlain.isAllowed (hr : r.IsPlain) (hp : P (r.place o)) : r.IsAllowed (within P) o := by
  have hcarryOut : ∀ {templates cs allColumns},
      (∀ template ∈ templates, r.IsLocal o cs allColumns template) →
        (within P).Keeps (r.carryOut o templates cs allColumns) := fun hlocal =>
    keeps_carryOut
      (fun template htemplate => keeps_runTemplate fun sql hrender _ =>
        MemoryStore.execute_changesIn hp (hlocal template htemplate sql hrender))
      fun name _ => MemoryStore.comment_changesIn hp name tagComment
  exact ⟨fun _ => MemoryStore.columns_changesIn, fun cs hcs => hcarryOut (hr.isLocal_create hcs),
    fun c hc allColumns => hcarryOut (hr.isLocal_add hc allColumns)⟩

end Request

namespace Manager

variable {o : Options} {r : Request} {P : TablePlace → Prop} {m m' m'' : Manager MemoryStore}

/-- Managers that know the same of the tables at some places, on stores that agree there. -/
structure SameAt (o : Options) (P : TablePlace → Prop) (m m' : Manager MemoryStore) : Prop where
  store : m.store.SameAt P m'.store
  definition : ∀ table, P (o.namespaceName, table) →
    m.cache.definition table = m'.cache.definition table

/-- A manager after changes at some places only, of the store and of the cache. -/
structure ChangesIn (o : Options) (P : TablePlace → Prop) (m m' : Manager MemoryStore) : Prop where
  store : m.store.ChangesIn P m'.store
  cache : ∀ table, ¬ P (o.namespaceName, table) → m'.cache.find? table = m.cache.find? table

theorem ChangesIn.refl (o : Options) (P : TablePlace → Prop) (h : m.store.otherWrites = []) :
    ChangesIn o P m m := ⟨.refl P h, fun _ _ => rfl⟩

theorem ChangesIn.trans (h : ChangesIn o P m m') (h' : ChangesIn o P m' m'') :
    ChangesIn o P m m'' :=
  ⟨h.store.trans h'.store, fun table hp => (h'.cache table hp).trans (h.cache table hp)⟩

theorem cache_ensure (m : Manager MemoryStore) (r : Request) :
    (m.ensure o r).2.cache =
      m.cache.put r.table (r.ensure o
        { store := m.store, elapsed := m.elapsed
          definition := m.cache.definition r.table }).2.definition :=
  rfl

/-- Bringing a table in step gives the same result on managers that agree at its place. -/
theorem ensure_sameAt (hr : r.IsPlain) (hp : P (r.place o)) :
    Matching.EnsuresAlike (SameAt o P) o r := by
  intro m m' h
  obtain ⟨hanswer, hstore, hdefinition⟩ := Request.agree_ensure (hr.agrees hp)
    { store := m.store, elapsed := m.elapsed, definition := m.cache.definition r.table }
    { store := m'.store, elapsed := m'.elapsed, definition := m'.cache.definition r.table }
    ⟨h.store, h.definition r.table hp⟩
  refine ⟨hanswer, hstore, fun table htable => ?_⟩
  rw [cache_ensure, cache_ensure, Cache.definition_put, Cache.definition_put,
    h.definition table htable, hdefinition]

/-- Bringing a table in step changes nothing but the table. -/
theorem ensure_changesIn (hr : r.IsPlain) (hp : P (r.place o)) (h : m.store.otherWrites = []) :
    ChangesIn o P m (m.ensure o r).2 := by
  refine ⟨Request.keeps_ensure (hr.isAllowed hp)
    { store := m.store, elapsed := m.elapsed, definition := m.cache.definition r.table } h,
    fun table htable => KeyMap.find?_insert_of_ne _ (fun he => htable ?_) _⟩
  exact he ▸ hp

end Manager

/-! ## Both tables of a batch -/

namespace Matching

open TableBatch

variable {o : Options} {b : TableBatch} {P : TablePlace → Prop}

/-- The tables that a batch is about: its own, and the tag table. -/
def tables (o : Options) (b : TableBatch) : List String := b.name :: (tagTable? o b).toList

def IsAbout (o : Options) (b : TableBatch) (p : TablePlace) : Prop :=
  p.1 = o.namespaceName ∧ p.2 ∈ tables o b

section Plain

variable (ho : o.HasTypes) (ht : o.HasDefaultTemplates)
include ho ht

theorem isPlain_metricRequest (hb : b.Valid o) : (metricRequest o b).IsPlain where
  types _ hc := type_of_needs ho hb (.inl hc)
  create := .inl (Options.createTemplates_eq ht)
  add := Options.addColumnTemplates_eq ht

theorem isPlain_tagRequest (hb : b.Valid o) (tagTable : String) :
    (tagRequest o b tagTable).IsPlain where
  types _ hc := type_of_needs ho hb (.inr hc)
  create := .inr (Options.tagTableCreateTemplates_eq ht)
  add := Options.tagTableAddColumnTemplates_eq ht

/-- Matching a batch gives the same result on managers that agree on its tables. -/
theorem matchBatch_sameAt (hP : ∀ p, IsAbout o b p → P p) :
    Agree (Abreast (Manager.SameAt o P) fun b' => b'.Valid o ∧ b'.name = b.name) (matchBatch o)
      (matchBatch o) := by
  refine agree_matchBatch (fun hb' hdrop => ?_) (fun b₁ b₂ tagTable hb₁ hb₂ htable => ?_)
    fun b' hb' => ?_
  · exact ⟨valid_dropColumn hb'.1 hdrop, (name_of_dropColumn hdrop).trans hb'.2⟩
  · refine Manager.ensure_sameAt (isPlain_tagRequest ho ht hb₂.1 tagTable) (hP _ ⟨rfl, ?_⟩)
    have hsame : tagTable? o b = some tagTable := by
      rw [← htable, tagTable?, tagTable?, hb₁.2]
    simp [tables, hsame, tagRequest, Request.place]
  · refine Manager.ensure_sameAt (isPlain_metricRequest ho ht hb'.1) (hP _ ⟨rfl, ?_⟩)
    simp [tables, metricRequest, Request.place, hb'.2]

omit ho ht in
theorem matchTable_changesIn {request : TableBatch → Request} {w : Work MemoryStore}
    (hr : (request w.batch).IsPlain) (hp : P ((request w.batch).place o))
    (hw : w.manager.store.otherWrites = []) :
    w.manager.ChangesIn o P (matchTable o request w).2.manager := by
  rw [(run_matchTable request w).1]
  exact Manager.ensure_changesIn hr hp hw

/-- Matching a batch changes nothing but its tables, however it ends. -/
theorem matchBatch_changesIn {w : Work MemoryStore} (hb : w.batch.Valid o)
    (hP : ∀ p, IsAbout o w.batch p → P p) (hw : w.manager.store.otherWrites = []) :
    w.manager.ChangesIn o P (matchBatch o w).2.manager := by
  have htag : w.manager.ChangesIn o P (matchTagTable o w.batch w).2.manager := by
    unfold matchTagTable
    cases htable : tagTable? o w.batch with
    | none => exact .refl o P hw
    | some tagTable =>
      refine matchTable_changesIn (isPlain_tagRequest ho ht hb tagTable) (hP _ ⟨rfl, ?_⟩) hw
      simp [tables, htable, tagRequest, Request.place]
  rcases matchBatch_cases (o := o) w with ⟨_, hend⟩ | ⟨_, _, hend, _⟩
  · rw [hend]
    exact htag
  · obtain ⟨cs, hloses⟩ := matchTagTable_loses (o := o) w
    rw [hend]
    refine htag.trans (matchTable_changesIn (isPlain_metricRequest ho ht (hloses.valid hb))
      (hP _ ⟨rfl, ?_⟩) htag.store.otherWrites)
    simp [tables, metricRequest, Request.place, hloses.name_eq]

/-- Matching a batch changes at most the table of the batch and its tag table, in the store and in
the cache, however it ends. On managers that agree on these tables, on stores that fail alike,
it gives the same result, and costs the batch the same, whatever else they hold. -/
theorem matchBatch_local {w : Work MemoryStore} (hw : w.batch.Built o)
    (hwrites : w.manager.store.otherWrites = []) :
    (∀ p, ¬ IsAbout o w.batch p →
      (matchBatch o w).2.manager.store.tables.find? p = w.manager.store.tables.find? p) ∧
    (∀ table, table ∉ tables o w.batch →
      (matchBatch o w).2.manager.cache.find? table = w.manager.cache.find? table) ∧
    ∀ v : Work MemoryStore, w.batch = v.batch →
      w.manager.SameAt o (IsAbout o w.batch) v.manager →
        (matchBatch o w).1 = (matchBatch o v).1 ∧
        (matchBatch o w).2.batch = (matchBatch o v).2.batch ∧
        (matchBatch o w).2.manager.SameAt o (IsAbout o w.batch) (matchBatch o v).2.manager := by
  have hchanges := matchBatch_changesIn ho ht hw.valid (fun _ hp => hp) hwrites
  refine ⟨hchanges.store.tables, fun table htable => hchanges.cache table fun h => htable h.2,
    fun v hbatch hsame => ?_⟩
  obtain ⟨hanswer, hmanager, hbatch', _⟩ :=
    matchBatch_sameAt ho ht (b := w.batch) (fun _ hp => hp) w v ⟨hsame, hbatch, hw.valid, rfl⟩
  exact ⟨hanswer, hbatch', hmanager⟩

end Plain

/-- A record with a tag, and an empty store. -/
def aloneWork : Work MemoryStore where
  manager := { store := {} }
  batch := TableBatch.push keyed { name := "cpu" } (recordOf [("host", "a")])

/-- The same record, and a store with another table. -/
def besideWork : Work MemoryStore where
  manager := { store := { tables := KeyMap.empty.insert ("", "mem") [] } }
  batch := aloneWork.batch

theorem matchBatch_local_besideWork : keyed.HasTypes ∧ keyed.HasDefaultTemplates ∧
    aloneWork.batch.Built keyed ∧ aloneWork.manager.store.otherWrites = [] ∧
    aloneWork.manager.SameAt keyed (IsAbout keyed aloneWork.batch) besideWork.manager ∧
    (matchBatch keyed aloneWork).1 = (matchBatch keyed besideWork).1 ∧
    (matchBatch keyed aloneWork).2.manager.store.tables.find? ("", "mem") = none := by
  have ho : keyed.HasTypes := hasTypes_keyed
  have ht : keyed.HasDefaultTemplates := hasDefaultTemplates_keyed
  have hw : aloneWork.batch.Built keyed := .push _ (.new _)
  have hnot : ¬ IsAbout keyed aloneWork.batch ("", "mem") := by
    rintro ⟨_, hmem⟩
    exact absurd hmem (by decide +kernel)
  have hsame :
      aloneWork.manager.SameAt keyed (IsAbout keyed aloneWork.batch) besideWork.manager := by
    refine ⟨⟨fun p hp => ?_, rfl, rfl, rfl, rfl, rfl, rfl⟩, fun _ _ => rfl⟩
    have hne : p ≠ ("", "mem") := fun he => hnot (he ▸ hp)
    exact (KeyMap.find?_insert_of_ne .empty hne []).symm
  obtain ⟨htables, _, hagree⟩ := matchBatch_local ho ht hw rfl
  exact ⟨ho, ht, hw, rfl, hsame, (hagree besideWork rfl hsame).1, htables _ hnot⟩

end Matching

end MetricTables
