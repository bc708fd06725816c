import MetricTables.Proofs.Matching
import MetricTables.Proofs.Reconcile.Calm

/-!
# Sessions

Whatever happens to a manager one after the other: batches are matched, tables are forgotten,
the store goes offline or becomes slow, others act between the calls and during them. The
cache stays right all the time, and a batch that is matched with success fits its tables.

## Main definitions

* `Event`, `Manager.run` — something that happens, and one event after another.

## Main statements

* `cache_coherent` — the cache is right after every session.
* `matched_columns_held` — the tables hold all columns of a matched batch.
-/

namespace MetricTables

open SharedStore Matching

/-- Something that happens to a manager. -/
inductive Event where
  /-- A batch is matched, with success or not. -/
  | matchBatch (b : TableBatch)
  /-- Everything is forgotten. -/
  | clear
  /-- A table is forgotten. -/
  | invalidate (table : String)
  /-- The store goes offline or online, and its calls take another time. -/
  | reach (isOffline : Bool) (latency : Duration)
  /-- Others do something to the store between calls. -/
  | others (act : MemoryStore → MemoryStore)

namespace Cache

theorem find?_map_unknown (entries : KeyMap String Definition) (table : String) :
    ((entries.map fun _ => Definition.unknown).find? table).getD .unknown = .unknown := by
  cases hfind : (entries.map fun _ => Definition.unknown).find? table with
  | none => rfl
  | some d =>
    obtain ⟨⟨_, _⟩, _, he⟩ := List.mem_map.1 (KeyMap.find?_eq_some_iff.1 hfind)
    cases he
    rfl

theorem definition_clear (c : Cache) (table : String) : c.clear.definition table = .unknown :=
  find?_map_unknown c.entries table

/-- A table that is forgotten is unknown, and others stay as they are. -/
theorem definition_invalidate (c : Cache) (table other : String) :
    (c.invalidate table).definition other = c.definition other ∨
      (c.invalidate table).definition other = .unknown := by
  unfold invalidate
  split
  · by_cases h : other = table
    · rw [h, definition_put_self]
      exact .inr rfl
    · exact .inl (definition_put_of_ne c h _)
  · exact .inl rfl

end Cache

namespace Manager

variable {o : Options}

/-- A manager after an event. -/
def step (o : Options) (m : Manager SharedStore) : Event → Manager SharedStore
  | .matchBatch b => (Matching.matchBatch o { manager := m, batch := b }).2.manager
  | .clear => { m with cache := m.cache.clear }
  | .invalidate table => { m with cache := m.cache.invalidate table }
  | .reach isOffline latency =>
    { m with store := { m.store with memory := { m.store.memory with isOffline, latency } } }
  | .others act => { m with store := m.store.note (act m.store.memory) }

/-- A manager after one event after another. -/
def run (o : Options) (m : Manager SharedStore) (events : List Event) : Manager SharedStore :=
  events.foldl (step o) m

/-- The batches of a session come about by adding records and giving up columns. -/
def IsProper (o : Options) (events : List Event) : Prop :=
  ∀ b, .matchBatch b ∈ events → b.Built o

/-- A cache that is right stays right at every event. -/
theorem step_does (ho : o.HasFixedColumns) (ht : o.HasDefaultTemplates)
    (quiet : Prop) (m : Manager SharedStore) (event : Event)
    (hevent : ∀ b, event = .matchBatch b → b.Built o) :
    m.store.Later (m.step o event).store ∧
      ((m.step o event).store.Lawful quiet → m.Tracks o quiet →
        (m.step o event).Tracks o quiet) := by
  cases event with
  | matchBatch b =>
    obtain ⟨hlater, _, hlawful⟩ := matchBatch_does ho ht quiet
      { manager := m, batch := b } (hevent b rfl).valid
    exact ⟨hlater, fun hl => (hlawful hl).1.tracks⟩
  | clear =>
    refine ⟨.refl _, fun _ _ table => ?_⟩
    show (m.cache.clear.definition table).Tracks _ _ _
    rw [Cache.definition_clear]
    exact Definition.tracks_unknown
  | invalidate table =>
    refine ⟨.refl _, fun _ h other => ?_⟩
    show ((m.cache.invalidate table).definition other).Tracks _ _ _
    rcases m.cache.definition_invalidate table other with heq | heq
    · rw [heq]
      exact h other
    · rw [heq]
      exact Definition.tracks_unknown
  | reach isOffline latency => exact ⟨.refl _, fun _ h => h⟩
  | others act =>
    refine ⟨later_note _ _, fun hl h table => ?_⟩
    have hdrift : Drifts quiet m.store (m.store.note (act m.store.memory)) := drifts_note hl
    exact (h table).mono (hdrift.columnsAt_prefix _) fun hq => hdrift.columnsAt_eq hq _

/-- A cache that is right stays right in every session. -/
theorem run_does (ho : o.HasFixedColumns) (ht : o.HasDefaultTemplates)
    (quiet : Prop) (m : Manager SharedStore) (events : List Event) (hevents : IsProper o events) :
    m.store.Later (m.run o events).store ∧
      ((m.run o events).store.Lawful quiet → m.Tracks o quiet →
        (m.run o events).Tracks o quiet) := by
  induction events generalizing m with
  | nil => exact ⟨.refl _, fun _ h => h⟩
  | cons event events ih =>
    obtain ⟨hlater, hstep⟩ := step_does ho ht quiet m event
      fun b hb => hevents b (hb ▸ List.mem_cons_self)
    obtain ⟨hlater', hrun⟩ := ih (m.step o event) fun b hb => hevents b (List.mem_cons_of_mem _ hb)
    exact ⟨hlater.trans hlater', fun hl h => hrun hl (hstep (hlater'.lawful hl) h)⟩

/-- If nobody plans anything, nobody does anything while an event happens. -/
theorem step_undisturbed (ho : o.HasFixedColumns) (ht : o.HasDefaultTemplates)
    (m : Manager SharedStore) (event : Event) (hevent : ∀ b, event = .matchBatch b → b.Built o)
    (hothers : ∀ act, event ≠ .others act) : undisturbed.allows m.store (m.step o event).store := by
  cases event with
  | matchBatch b =>
    exact matchBatch_keeps
      (fun _ hb => ensure_undisturbed ((follows_metricRequest ho ht).sound hb).names)
      (fun tagTable _ hb => ensure_undisturbed ((follows_tagRequest ho ht tagTable).sound hb).names)
      { manager := m, batch := b } (hevent b rfl).valid
  | clear => exact undisturbed.refl _
  | invalidate table => exact undisturbed.refl _
  | reach isOffline latency => exact fun hm => ⟨⟨hm.turns, hm.writes⟩, fun _ ha => .inl ha⟩
  | others act => exact absurd rfl (hothers act)

/-- If nobody plans anything, nobody does anything in a session of which others are no part. -/
theorem run_undisturbed (ho : o.HasFixedColumns) (ht : o.HasDefaultTemplates)
    (m : Manager SharedStore) (events : List Event) (hevents : IsProper o events)
    (hothers : ∀ act, .others act ∉ events) :
    undisturbed.allows m.store (m.run o events).store := by
  induction events generalizing m with
  | nil => exact undisturbed.refl _
  | cons event events ih =>
    have hstep := step_undisturbed ho ht m event
      (fun b hb => hevents b (hb ▸ List.mem_cons_self))
      fun act hact => hothers act (hact ▸ List.mem_cons_self)
    exact undisturbed.trans hstep (ih (m.step o event)
      (fun b hb => hevents b (List.mem_cons_of_mem _ hb))
      fun act hact => hothers act (List.mem_cons_of_mem _ hact))

/-- After every session that starts with nothing known, the cache is right: if nobody else
wrote to the store, every known definition is what its table is read as now; if others
only created tables and appended columns, every known column is what a column of its table
is read as. -/
theorem cache_coherent (ho : o.HasFixedColumns) (ht : o.HasDefaultTemplates)
    (m : Manager SharedStore) (hm : ∀ table, m.cache.definition table = .unknown)
    (events : List Event) (hevents : IsProper o events) :
    ((∀ a ∈ (m.run o events).store.acts, a.Leaves) → ∀ table,
      ((m.run o events).cache.definition table).isKnown = true →
        (m.run o events).cache.definition table =
          .ofStored o ((m.run o events).store.tables.find? (o.namespaceName, table))) ∧
    ((∀ a ∈ (m.run o events).store.acts, a.Widens) → ∀ table,
      ∀ c ∈ ((m.run o events).cache.definition table).columns,
        ∃ columns, (m.run o events).store.tables.find? (o.namespaceName, table) = some columns ∧
          ∃ s ∈ columns, s.toColumn o = c) := by
  have hstart : ∀ exact : Prop, m.Tracks o exact := fun exact table => by
    rw [hm table]
    exact Definition.tracks_unknown
  refine ⟨fun hacts table hknown => ?_, fun hacts table c hc => ?_⟩
  · have htracks := (run_does ho ht True m events hevents).2
      (fun a ha => ⟨(hacts a ha).widens, fun _ => hacts a ha⟩) (hstart True) table
    rw [Definition.ofStored_eq]
    exact htracks.eq trivial hknown
  · have htracks := (run_does ho ht False m events hevents).2
      (fun a ha => ⟨hacts a ha, False.elim⟩) (hstart False) table
    obtain ⟨name, hfind⟩ := Definition.mem_columns.1 hc
    obtain ⟨_, s, hs, hread⟩ := htracks.backed name c hfind
    cases hcolumns : (m.run o events).store.tables.find? (o.namespaceName, table) with
    | none => simp [SharedStore.columnsAt, Catalog.columnsAt, hcolumns] at hs
    | some columns =>
      refine ⟨columns, rfl, s, ?_, hread⟩
      simpa [SharedStore.columnsAt, Catalog.columnsAt, hcolumns] using hs

/-- A manager that knows nothing, of an empty store. -/
def fresh : Manager SharedStore where
  store := { memory := {} }

/-- A batch is matched twice, with the cache cleared in between and the store offline for a
while. -/
def sampleSession : List Event :=
  [.matchBatch .sample, .clear, .reach true .zero, .matchBatch .sample, .reach false .zero,
    .matchBatch .sample]

theorem cache_coherent_sample :
    (∀ a ∈ (fresh.run .plain sampleSession).store.acts, a.Leaves) ∧
    ∀ table, ((fresh.run .plain sampleSession).cache.definition table).isKnown = true →
      (fresh.run .plain sampleSession).cache.definition table =
        .ofStored .plain ((fresh.run .plain sampleSession).store.tables.find? ("", table)) := by
  have hevents : IsProper .plain sampleSession := by
    intro b hb
    simp only [sampleSession, List.mem_cons, Event.matchBatch.injEq, reduceCtorEq, List.not_mem_nil,
      or_false, false_or, or_self] at hb
    rw [hb]
    exact TableBatch.built_sample
  have hothers : ∀ act, Event.others act ∉ sampleSession := by simp [sampleSession]
  have ho := Options.hasFixedColumns_plain
  have ht := Options.hasDefaultTemplates_plain
  have hacts : ∀ a ∈ (fresh.run .plain sampleSession).store.acts, a.Leaves := fun a ha =>
    ((run_undisturbed ho ht fresh _ hevents hothers ⟨rfl, rfl⟩).2 a ha).resolve_left
      fun h => nomatch h
  exact ⟨hacts, (cache_coherent ho ht fresh (fun _ => rfl) sampleSession hevents).1 hacts⟩

/-- A batch that is matched with success, in a session that starts with nothing known and in
which others only create tables and append columns, fits its tables: they have every
column that the batch still needs, with its role and with a type that can take its values. -/
theorem matched_columns_held (ho : o.HasFixedColumns) (ht : o.HasDefaultTemplates)
    (m : Manager SharedStore) (hm : ∀ table, m.cache.definition table = .unknown)
    (events : List Event) (hevents : IsProper o events) (b : TableBatch) (hb : b.Built o)
    (outcome : Outcome) (w : Work SharedStore)
    (hmatch : Matching.matchBatch o { manager := m.run o events, batch := b } = (.ok outcome, w))
    (hacts : ∀ a ∈ w.manager.store.acts, a.Widens) :
    (∀ c ∈ w.batch.metricColumns o,
      ∃ columns, w.manager.store.tables.find? (o.namespaceName, w.batch.name) = some columns ∧
        ∃ s ∈ columns, s.name = c.name ∧ s.role o = c.role ∧
          (SqlType.parse s.type).canContain c.type = true) ∧
    (o.tagsAsForeignKeys = true → ∀ c ∈ w.batch.tagTableColumns o,
      ∃ columns, w.manager.store.tables.find?
          (o.namespaceName, o.tagTableName w.batch.name) = some columns ∧
        ∃ s ∈ columns, s.name = c.name ∧ s.role o = c.role ∧
          (SqlType.parse s.type).canContain c.type = true) := by
  have hheld : ∀ {p : TablePlace} {c : Column}, Held o (w.manager.store.columnsAt p) c →
      ∃ columns, w.manager.store.tables.find? p = some columns ∧
        ∃ s ∈ columns, s.name = c.name ∧ s.role o = c.role ∧
          (SqlType.parse s.type).canContain c.type = true := by
    rintro p c ⟨s, hs, hname, hholds⟩
    obtain ⟨hrole, htype⟩ := Bool.and_eq_true_iff.1 hholds
    cases hcolumns : w.manager.store.tables.find? p with
    | none => simp [SharedStore.columnsAt, Catalog.columnsAt, hcolumns] at hs
    | some columns =>
      refine ⟨columns, rfl, s, ?_, hname, eq_of_beq hrole, htype⟩
      simpa [SharedStore.columnsAt, Catalog.columnsAt, hcolumns] using hs
  have hlawful : w.manager.store.Lawful False := fun a ha => ⟨hacts a ha, False.elim⟩
  have hmatched := matchBatch_does ho ht False
    { manager := m.run o events, batch := b } hb.valid
  rw [hmatch] at hmatched
  obtain ⟨hlater, _, hdoes⟩ := hmatched
  have htracks : (m.run o events).Tracks o False := by
    refine (run_does ho ht False m events hevents).2 (hlater.lawful hlawful) fun table => ?_
    rw [hm table]
    exact Definition.tracks_unknown
  obtain ⟨hmetric, htags⟩ := (hdoes hlawful).2 htracks outcome rfl
  exact ⟨fun c hc => hheld (hmetric c hc), fun hkeys c hc => hheld (htags _ (if_pos hkeys) c hc)⟩

/-- Another user creates the table of the batch with its time column. -/
def otherCreates : Event :=
  .others fun s => s.putTable ("", "cpu") [(⟨"time", .time, .timestamp⟩ : Column).stored]

theorem matched_columns_held_sample : ∃ outcome w, Matching.matchBatch .plain
      { manager := fresh.run .plain [otherCreates], batch := .sample } = (.ok outcome, w) ∧
    (∀ c ∈ w.batch.metricColumns .plain,
      ∃ columns, w.manager.store.tables.find? ("", w.batch.name) = some columns ∧
        ∃ s ∈ columns, s.name = c.name ∧ s.role .plain = c.role ∧
          (SqlType.parse s.type).canContain c.type = true) := by
  have ho := Options.hasFixedColumns_plain
  have ht := Options.hasDefaultTemplates_plain
  have hb := TableBatch.built_sample
  have hr := (follows_metricRequest ho ht).sound hb.valid
  let m := fresh.run .plain [otherCreates]
  let w := m.workspace (metricRequest .plain .sample)
  have hcalm : w.store.IsCalm .plain := ⟨⟨rfl, rfl⟩, ⟨rfl, rfl, rfl⟩, by decide⟩
  have hcolumns : w.store.columnsAt ((metricRequest .plain .sample).place .plain) =
      [(⟨"time", .time, .timestamp⟩ : Column).stored] := by decide
  have hproper : w.store.tables.ProperAt ((metricRequest .plain .sample).place .plain) := by
    intro hnil
    rw [columnsAt, Catalog.columnsAt_of_find? hnil] at hcolumns
    cases hcolumns
  have hunsettled : (metricRequest .plain .sample).settled? .plain
      (Column.sort (metricRequest .plain .sample).required) w.definition = none := rfl
  have hanswer := Request.ensure_calm hr
    (Request.isEffective_of_defaults hr.recovered (Options.createTemplates_eq ht)
      (Options.addColumnTemplates_eq ht)) hcalm hproper
    (fun hnil => by rw [hcolumns] at hnil; cases hnil)
    (fun _ hsettled => by rw [hunsettled] at hsettled; cases hsettled)
  rw [hcolumns] at hanswer
  have hmissing : Column.sort ((Definition.ofColumns .plain
      [(⟨"time", .time, .timestamp⟩ : Column).stored]).gap Options.plain.identifierMaxBytes
        (Column.sort (metricRequest .plain .sample).required)).missing = [] := by
    cbv
  have hensure : (m.ensure .plain (metricRequest .plain .sample)).1 = .ok [] :=
    hanswer.trans (congrArg Except.ok hmissing)
  have hmatched : (Matching.matchBatch .plain { manager := m, batch := .sample }).1 = .ok {} :=
    matchBatch_of_ensure rfl hensure
  have hacts : ∀ a ∈ (Matching.matchBatch .plain
      { manager := m, batch := .sample }).2.manager.store.acts, a.Widens := by
    intro a ha
    have hbuilt : ∀ b, Event.matchBatch .sample = .matchBatch b → b.Built .plain := by
      rintro _ ⟨⟩
      exact hb
    have hallowed := step_undisturbed ho ht m (.matchBatch .sample) hbuilt (by simp) ⟨rfl, rfl⟩
    rcases hallowed.2 a ha with hmem | hleaves
    · cases List.mem_singleton.1 hmem
      exact fun p => List.nil_prefix
    · exact hleaves.widens
  obtain ⟨hheld, _⟩ := matched_columns_held ho ht fresh (fun _ => rfl) [otherCreates]
    (by simp [IsProper, otherCreates]) .sample hb {} _ (Prod.ext hmatched rfl) hacts
  exact ⟨{}, _, Prod.ext hmatched rfl, hheld⟩

end Manager

end MetricTables
