import MetricTables.Proofs.FixedColumns
import MetricTables.Proofs.Reconcile.Widening
import MetricTables.Proofs.Sessions

/-!
# Sessions that only widen

A manager that is the only writer never takes anything from a table. The tables that it
creates and the columns that it adds have names that fit, and its marks go to columns of tags
alone. All this holds after every single step of every session, whatever failed before.

## Main definitions

* `Options.HasFittingKeys` — the names of the time column and the tag key column fit.
* `Matching.MayStep` — what matching a batch may do to the tables at once.
* `Manager.matchSteps` — the steps of matching a batch.
* `Manager.history` — the tables at every point of a session.
* `Manager.OnlyWidens` — what a session does to the tables.

## Main statements

* `matchBatch_advances` — matching a batch is a course of permitted steps.
* `run_untouched` — failures that are planned leave the tables alone.
* `run_widens` — sessions only widen tables, for every configuration that is accepted.
-/

namespace MetricTables

open TableBatch

/-- The names of the time column and of the tag key column can be created. -/
structure Options.HasFittingKeys (o : Options) : Prop where
  time : Identifier.fits o.identifierMaxBytes o.timeColumn.name = true
  tagId : Identifier.fits o.identifierMaxBytes o.tagIdColumn.name = true

variable {o : Options}

namespace Matching

/-! ## What a batch needs -/

/-- What matching a batch may do to the tables at once: what the metric table needs, with the
time column as its key, and, if tags are kept by key, what the tag table needs, with the tag key
column as its key. -/
def MayStep (o : Options) (b : TableBatch) (start t t' : Catalog) : Prop :=
  (metricRequest o b).Permits o o.timeColumn start t t' ∨
    o.tagsAsForeignKeys = true ∧
      (tagRequest o b (o.tagTableName b.name)).Permits o o.tagIdColumn start t t'

theorem MayStep.growsInto {b : TableBatch} {start t t' : Catalog} (h : MayStep o b start t t') :
    t.GrowsInto t' := h.elim Request.Permits.growsInto fun h => h.2.growsInto

section Requests

variable (ho : o.HasFixedColumns) (ht : o.HasDefaultTemplates) (hfit : o.HasFittingKeys)
  {b : TableBatch} (hb : b.Valid o)
include ho ht hfit hb

theorem isKeyed_metricRequest : (metricRequest o b).IsKeyed o o.timeColumn where
  names := nodup_metricColumns ho hb
  types c hc := (recovered_metricColumns ho hb hc).type
  create := .inl (Options.createTemplates_eq ht)
  add := Options.addColumnTemplates_eq ht
  key := ⟨List.mem_cons_self, hfit.time⟩
  tags c hc hrole := by
    rcases mem_metricColumns.1 hc with rfl | (⟨_, rfl⟩ | ⟨_, hc⟩) | hc
    · cases ho.timeRole.symm.trans hrole
    · cases ho.tagIdRole.symm.trans hrole
    · exact ((isPart_tagPart ho hb).columns c hc).2.2
    · exact ((isPart_fieldPart ho hb).columns c hc).2.2

theorem isKeyed_tagRequest (tagTable : String) :
    (tagRequest o b tagTable).IsKeyed o o.tagIdColumn where
  names := nodup_tagTableColumns ho hb
  types c hc := (recovered_tagTableColumns ho hb hc).type
  create := .inr (Options.tagTableCreateTemplates_eq ht)
  add := Options.tagTableAddColumnTemplates_eq ht
  key := ⟨List.mem_cons_self, hfit.tagId⟩
  tags c hc hrole := by
    rcases List.mem_cons.1 hc with rfl | hc
    · cases ho.tagIdRole.symm.trans hrole
    · exact ((isPart_tagPart ho hb).columns c hc).2.2

end Requests

/-! ## Matching -/

/-- Bringing one table of a batch in step is a course of permitted steps. -/
theorem matchTable_advances {request : TableBatch → Request} {key : Column}
    (w : Work (Traced SharedStore)) (h : (request w.batch).IsKeyed o key) :
    Advances ((request w.batch).Permits o key w.manager.store.store.tables) w.manager.store
      (matchTable o request w).2.manager.store := by
  rw [(run_matchTable request w).1]
  exact Request.widens_ensure h
    ⟨w.manager.store, w.manager.elapsed, w.manager.cache.definition (request w.batch).table⟩

section Batch

variable (ho : o.HasFixedColumns) (ht : o.HasDefaultTemplates) (hfit : o.HasFittingKeys)
include ho ht hfit

/-- Every step of the first half of matching is a permitted one. -/
theorem matchTagTable_advances (w : Work (Traced SharedStore)) (hw : w.batch.Valid o) :
    Advances (MayStep o w.batch w.manager.store.store.tables) w.manager.store
        (matchTagTable o w.batch w).2.manager.store ∧
      ∃ cs, Loses o w.batch cs (matchTagTable o w.batch w).2.batch := by
  cases hkeys : o.tagsAsForeignKeys with
  | false =>
    rw [matchTagTable, tagTable?, if_neg (by simp [hkeys])]
    exact ⟨.refl _, [], .nil _⟩
  | true =>
    rw [matchTagTable, tagTable?, if_pos hkeys]
    have hkeyed := isKeyed_tagRequest ho ht hfit hw (o.tagTableName w.batch.name)
    obtain ⟨_, cs, hloses, _⟩ := run_matchTable (o := o)
      (fun b => tagRequest o b (o.tagTableName w.batch.name)) w
    exact ⟨(matchTable_advances w hkeyed).mono fun _ _ _ h => .inr ⟨hkeys, h⟩, cs, hloses⟩

/-- Matching a batch is a course of permitted steps. -/
theorem matchBatch_advances (w : Work (Traced SharedStore)) (hw : w.batch.Valid o) :
    Advances (MayStep o w.batch w.manager.store.store.tables) w.manager.store
      (matchBatch o w).2.manager.store := by
  obtain ⟨hfirst, cs, hloses⟩ := matchTagTable_advances ho ht hfit w hw
  rcases matchBatch_cases (o := o) w with ⟨_, hend⟩ | ⟨_, _, hend, _⟩
  · rw [hend]
    exact hfirst
  · have hkeyed := isKeyed_metricRequest ho ht hfit (hloses.valid hw)
    rw [hend]
    refine hfirst.trans ((matchTable_advances _ hkeyed).mono fun hs t t' h => .inl ?_)
    -- What was given up with the tag table is no longer needed, but nothing else is.
    have hmore := h.required_mono (r := metricRequest o w.batch) hloses.name_eq
      (fun d hd => ((hloses.required ho hw).1 d hd).1) (nodup_metricColumns ho hw)
    exact hmore.earlier (hfirst.growsInto (fun _ _ => MayStep.growsInto) hs)

end Batch

end Matching

/-! ## Points of a session -/

namespace Manager

open Matching

/-- The same manager, with a trace of its store. -/
def traced (m : Manager SharedStore) : Manager (Traced SharedStore) where
  store := { store := m.store }
  elapsed := m.elapsed
  cache := m.cache

/-- The steps of matching a batch. -/
def matchSteps (o : Options) (m : Manager SharedStore) (b : TableBatch) : List (Step SharedStore) :=
  (matchBatch o { manager := m.traced, batch := b }).2.manager.store.steps

/-- The tables during an event: after each step, if there are steps, and at the end. -/
def stages (o : Options) (m : Manager SharedStore) : Event → List Catalog
  | .matchBatch b => (m.matchSteps o b).map fun step => step.after.tables
  | event => [(m.step o event).store.tables]

/-- The tables at every point of a session, from its first step to its end. -/
def history (o : Options) (m : Manager SharedStore) : List Event → List Catalog
  | [] => []
  | event :: events => m.stages o event ++ (m.step o event).history o events

/-- A trace changes nothing about matching. -/
theorem matchBatch_traced (m : Manager SharedStore) (b : TableBatch) :
    (matchBatch o { manager := m.traced, batch := b }).2.manager.store.store =
      (m.step o (.matchBatch b)).store :=
  (Traced.mirror.agree_matchBatch o { manager := m.traced, batch := b } { manager := m, batch := b }
    ⟨⟨rfl, rfl, rfl⟩, rfl, trivial⟩).2.manager.store

/-- Points one after the other, up to the last one. -/
structure Growing (t : Catalog) (ts : List Catalog) (t' : Catalog) : Prop where
  chain : (t :: ts).IsChain Catalog.GrowsInto
  last : (t :: ts).getLast? = some t'

theorem Growing.append {t t' t'' : Catalog} {ts ts' : List Catalog} (h : Growing t ts t')
    (h' : Growing t' ts' t'') : Growing t (ts ++ ts') t'' := by
  induction ts generalizing t with
  | nil =>
    obtain rfl := Option.some.inj h.last
    exact h'
  | cons u us ih =>
    obtain ⟨hstep, hchain⟩ := List.isChain_cons_cons.1 h.chain
    have hrest := ih ⟨hchain, by simpa using h.last⟩
    exact ⟨.cons_cons hstep hrest.chain, by simpa using hrest.last⟩

section Session

variable (ho : o.HasFixedColumns) (ht : o.HasDefaultTemplates) (hfit : o.HasFittingKeys)
include ho ht hfit

/-- Matching a batch is a course from the tables before it to those behind it. -/
theorem matchSteps_course (m : Manager SharedStore) {b : TableBatch} (hb : b.Valid o)
    (hs : (m.step o (.matchBatch b)).store.Untouched) :
    Course (MayStep o b m.store.tables) m.store.tables (m.matchSteps o b)
      (m.step o (.matchBatch b)).store.tables := by
  obtain ⟨_, new, hnew, hcourse⟩ :=
    matchBatch_advances ho ht hfit { manager := m.traced, batch := b } hb
  have hsteps : m.matchSteps o b = new := hnew.trans (List.nil_append new)
  rw [matchBatch_traced] at hcourse
  rw [hsteps]
  exact hcourse hs

/-- Within one event every stage of the tables grows into the next. -/
theorem stages_growing (m : Manager SharedStore) (event : Event)
    (hevent : ∀ b, event = .matchBatch b → b.Built o) (hs : (m.step o event).store.Untouched) :
    Growing m.store.tables (m.stages o event) (m.step o event).store.tables := by
  have hkept : ∀ {t : Catalog}, t = m.store.tables → Growing m.store.tables [t] t := by
    rintro t rfl
    exact ⟨.cons_cons (.refl _) (.singleton _), rfl⟩
  cases event with
  | matchBatch b =>
    have hcourse := matchSteps_course ho ht hfit m (hevent b rfl).valid hs
    obtain ⟨hchain, hlast⟩ := hcourse.growing fun _ _ => MayStep.growsInto
    exact ⟨hchain, hlast⟩
  | clear => exact hkept rfl
  | invalidate table => exact hkept rfl
  | reach isOffline latency => exact hkept rfl
  | others act => exact hkept (SharedStore.tables_note hs)

/-- The tables grow from each point of a session to the next. -/
theorem history_growing (m : Manager SharedStore) (events : List Event)
    (hevents : IsProper o events) (hs : (m.run o events).store.Untouched) :
    Growing m.store.tables (m.history o events) (m.run o events).store.tables := by
  induction events generalizing m with
  | nil => exact ⟨.singleton _, rfl⟩
  | cons event events ih =>
    have hrest : IsProper o events := fun b hb => hevents b (List.mem_cons_of_mem _ hb)
    have hlater := (run_does ho ht False (m.step o event) events hrest).1
    exact (stages_growing ho ht hfit m event (fun b hb => hevents b (hb ▸ List.mem_cons_self))
      (hlater.untouched hs)).append (ih (m.step o event) hrest hs)

end Session

end Manager

/-! ## Sessions -/

namespace Manager

open Matching

/-- What a session does to the tables if nobody else writes. -/
structure OnlyWidens (o : Options) (m : Manager SharedStore) (events : List Event) : Prop where
  /-- From each point to every later one, all tables keep their columns. -/
  growing : (m.store.tables :: m.history o events).Pairwise Catalog.GrowsInto
  /-- The points go up to the end. -/
  last : (m.store.tables :: m.history o events).getLast? = some (m.run o events).store.tables
  /-- A batch is matched in permitted steps. -/
  courses : ∀ before b after, events = before ++ .matchBatch b :: after →
    Course (MayStep o b (m.run o before).store.tables) (m.run o before).store.tables
      ((m.run o before).matchSteps o b) (m.run o (before ++ [.matchBatch b])).store.tables

theorem run_append (m : Manager SharedStore) (before after : List Event) :
    m.run o (before ++ after) = (m.run o before).run o after := List.foldl_append

/-- From one event to a session: stages follow each other, and steps stay permitted. -/
theorem onlyWidens (ho : o.HasFixedColumns) (ht : o.HasDefaultTemplates) (hfit : o.HasFittingKeys)
    (m : Manager SharedStore) (events : List Event) (hevents : IsProper o events)
    (hs : (m.run o events).store.Untouched) : m.OnlyWidens o events where
  growing := by
    have : Trans Catalog.GrowsInto Catalog.GrowsInto Catalog.GrowsInto := ⟨Catalog.GrowsInto.trans⟩
    exact (history_growing ho ht hfit m events hevents hs).chain.pairwise
  last := (history_growing ho ht hfit m events hevents hs).last
  courses before b after hsplit := by
    subst hsplit
    have hafter : IsProper o after := fun b' hb' => hevents b' (by simp [hb'])
    have hlater := (run_does ho ht False (m.run o (before ++ [.matchBatch b])) after hafter).1
    rw [← run_append, List.append_assoc, List.singleton_append] at hlater
    have hb : b.Valid o := (hevents b (by simp)).valid
    rw [run_append]
    have hend := hlater.untouched hs
    rw [run_append] at hend
    exact matchSteps_course ho ht hfit (m.run o before) hb hend

/-- Others who only plan failures, or change how the store is reached, leave the tables alone. -/
theorem run_untouched (ho : o.HasFixedColumns) (ht : o.HasDefaultTemplates)
    (m : Manager SharedStore) (hm : m.store.IsUndisturbed) (hacts : m.store.Untouched)
    (events : List Event) (hevents : IsProper o events)
    (hothers : ∀ act, .others act ∈ events → ∀ s,
      (act s).tables = s.tables ∧ (act s).otherWrites = s.otherWrites) :
    (m.run o events).store.Untouched := by
  induction events generalizing m with
  | nil => exact hacts
  | cons event events ih =>
    have hstep : (m.step o event).store.IsUndisturbed ∧ (m.step o event).store.Untouched := by
      by_cases hevent : ∃ act, event = .others act
      · obtain ⟨act, rfl⟩ := hevent
        obtain ⟨htables, hwrites⟩ := hothers act List.mem_cons_self m.store.memory
        refine ⟨⟨hm.turns, hwrites.trans hm.writes⟩, fun a ha => ?_⟩
        rcases List.mem_append.1 ha with ha | ha
        · exact hacts a ha
        · rw [List.mem_singleton.1 ha]
          exact htables
      · obtain ⟨hs, hleaves⟩ := step_undisturbed ho ht m event
          (fun b hb => hevents b (hb ▸ List.mem_cons_self)) (fun act h => hevent ⟨act, h⟩) hm
        exact ⟨hs, fun a ha => (hleaves a ha).elim (hacts a) fun h => h.1⟩
    exact ih (m.step o event) hstep.1 hstep.2 (fun b hb => hevents b (List.mem_cons_of_mem _ hb))
      fun act hact => hothers act (List.mem_cons_of_mem _ hact)

/-- For every configuration that is accepted, with the default templates and with fixed columns
of different names, every session in which nobody else writes only widens tables, whatever
fails and however long a call may take. -/
theorem run_widens {document : String} {c : Config} (hread : Config.read document = .ok c)
    (hcreate : c.schema.createTemplates = [defaultCreateTemplate])
    (hadd : c.schema.addColumnTemplates = [defaultAddColumnTemplate])
    (htagCreate : c.schema.tagTableCreateTemplates = [defaultTagTableCreateTemplate])
    (htagAdd : c.schema.tagTableAddColumnTemplates = [defaultAddColumnTemplate])
    (htags : c.schema.tagsAsJson = true → tagsJsonName ≠ c.schema.timestampColumnName ∧
      tagsJsonName ≠ c.schema.tagIdColumnName)
    (hfields : c.schema.fieldsAsJson = true → fieldsJsonName ≠ c.schema.timestampColumnName ∧
      fieldsJsonName ≠ c.schema.tagIdColumnName) :
    ∃ layout, Options.ofConfig c.schema = .ok layout ∧
      layout.identifierMaxBytes = c.schema.identifierMaxBytes ∧
      ∀ (timeout : Duration) (m : Manager SharedStore) (events : List Event),
        let o := { layout with statementTimeout := timeout }
        IsProper o events → (m.run o events).store.Untouched → m.OnlyWidens o events := by
  obtain ⟨htimeFits, htagIdFits, hname⟩ := Config.read_eq_ok hread
  obtain ⟨layout, hlayout⟩ := Options.exists_ofConfig hname hcreate hadd htagCreate htagAdd
  obtain ⟨_, _, _, _, _, htime, htagId, _, _, hlimit⟩ := Options.ofConfig_eq_ok hlayout
  have ho := Options.hasFixedColumns_ofConfig hlayout htags hfields
  have ht := Options.hasDefaultTemplates_ofConfig hlayout hcreate hadd htagCreate htagAdd
  have hfit : layout.HasFittingKeys := by
    refine ⟨?_, ?_⟩
    · rw [htime, hlimit]
      exact htimeFits
    · rw [htagId, hlimit]
      exact htagIdFits
  refine ⟨layout, hlayout, hlimit, fun timeout m events => ?_⟩
  exact onlyWidens (ho.withTimeout timeout) (ht.withTimeout timeout)
    ⟨hfit.time, hfit.tagId⟩ m events

/-- The first batch fails in the middle, the second meets a store that is offline, and the third
one is matched with nothing known. -/
def failingSession : List Event :=
  [.others fun s => s.failNext (.connection "lost"), .matchBatch .sample, .reach true .zero,
    .matchBatch .sample, .reach false .zero, .clear, .matchBatch .sample]

theorem run_widens_failing :
    Config.read "" = .ok {} ∧ IsProper .plain failingSession ∧
      (fresh.run .plain failingSession).store.Untouched ∧
      fresh.OnlyWidens .plain failingSession := by
  have hread : Config.read "" = .ok {} := rfl
  have hevents : IsProper .plain failingSession := by
    intro b hb
    simp only [failingSession, List.mem_cons, Event.matchBatch.injEq, reduceCtorEq,
      List.not_mem_nil, or_false, false_or, or_self] at hb
    rw [hb]
    exact TableBatch.built_sample
  have hothers : ∀ act, .others act ∈ failingSession → ∀ s,
      (act s).tables = s.tables ∧ (act s).otherWrites = s.otherWrites := by
    intro act hact s
    simp only [failingSession, List.mem_cons, Event.others.injEq, reduceCtorEq, List.not_mem_nil,
      or_false] at hact
    subst hact
    exact ⟨rfl, rfl⟩
  have huntouched := run_untouched Options.hasFixedColumns_plain Options.hasDefaultTemplates_plain
    fresh ⟨rfl, rfl⟩ (fun a ha => nomatch ha) failingSession hevents hothers
  obtain ⟨layout, hlayout, _, hwidens⟩ :=
    run_widens hread rfl rfl rfl rfl (by simp) (by simp)
  obtain rfl := Except.ok.inj (hlayout.symm.trans Options.ofConfig_default)
  exact ⟨hread, hevents, huntouched,
    hwidens Options.defaultTimeout fresh failingSession hevents huntouched⟩

end Manager

end MetricTables
