import MetricTables.Proofs.Mirror
import MetricTables.Proofs.Reconcile.Hollow

/-!
# Trying again

A request that failed in a way that may go away is made again once nothing is planned to fail.
It reports what it would have reported without the failure, and beyond that the tags that the
first attempt stored without their comment: they are read back as fields, and are never marked
afterwards. Only a template behind the first one of its list can fail between the two.

## Main definitions

* `Manager.mended` — the manager once nothing is planned to fail.

## Main statements

* `missing_eq_iff` — when new columns change nothing about what is missing.
* `retry_eq_iff` — when a retry reports what an undisturbed request reports.
* `retry_reports_tag` — a tag that was stored without its comment is reported.
-/

namespace MetricTables

open SharedStore

/-! ## What is missing -/

section Missing

variable {o : Options} {cols new : List StoredColumn} {c : Column}

/-- A new column is read back as it was asked for, or with another role. -/
theorem holds_toColumn (hc : c.IsRecovered o) {s : StoredColumn}
    (hs : s = c.marked ∨ s = c.stored) :
    (s.toColumn o).holds c = true ↔ s.role o = c.role := by
  have htype : SqlType.parse s.type = c.type := by
    rcases hs with rfl | rfl
    · rw [Column.marked_type, SqlType.parse_spelling hc.type]
    · exact SqlType.parse_spelling hc.type
  simp [Column.holds, StoredColumn.toColumn, htype]

variable {limit : Nat} {required : List Column} (hnames : (required.map Column.name).Nodup)
  (hrecovered : ∀ c ∈ required, c.IsRecovered o) (hnew : (new.map StoredColumn.name).Nodup)
  (hwanted : ∀ s ∈ new, ∃ c ∈ required, Identifier.fits limit c.name = true ∧
    c.name ∉ cols.map StoredColumn.name ∧ (s = c.marked ∨ s = c.stored))
include hnames hrecovered hnew hwanted

/-- A required column of the name of a new one is what the new one was asked for. -/
theorem wanted_of_name {s : StoredColumn} (hs : s ∈ new) (hc : c ∈ required)
    (hname : s.name = c.name) :
    Identifier.fits limit c.name = true ∧ c.name ∉ cols.map StoredColumn.name ∧
      (Definition.ofColumns o (cols ++ new)).find? c.name = some (s.toColumn o) ∧
      ((s.toColumn o).holds c = true ↔ s.role o = c.role) := by
  obtain ⟨d, hd, hfits, hfresh, hstored⟩ := hwanted s hs
  have hdname : s.name = d.name := by rcases hstored with rfl | rfl <;> simp
  obtain rfl : d = c := List.inj_on_of_nodup_map hnames hd hc (hdname.symm.trans hname)
  refine ⟨hfits, hfresh, ?_, holds_toColumn (hrecovered d hd) hstored⟩
  have hread : ((new.map (StoredColumn.toColumn o)).map Column.name).Nodup := by
    simpa [Function.comp_def] using hnew
  rw [Definition.ofColumns_append, ← hname]
  exact Definition.find?_insertAll_of_mem hread (List.mem_map.2 ⟨s, hs, rfl⟩)

omit hnames hrecovered hnew hwanted in
theorem find?_append_of_not_mem {name : String} (h : name ∉ new.map StoredColumn.name) :
    (Definition.ofColumns o (cols ++ new)).find? name =
      (Definition.ofColumns o cols).find? name := by
  have hread : name ∉ (new.map (StoredColumn.toColumn o)).map Column.name := by simpa using h
  rw [Definition.ofColumns_append, Definition.find?_insertAll_of_not_mem hread]

/-- New columns that are read back with their roles are in no conflict. -/
theorem conflicts_append_of_roles (hroles : ∀ c ∈ required, c.name ∉ cols.map StoredColumn.name →
      ∀ s ∈ cols ++ new, s.name = c.name → s.role o = c.role) :
    (Definition.ofColumns o (cols ++ new)).conflicts (Column.sort required) =
      (Definition.ofColumns o cols).conflicts (Column.sort required) := by
  refine List.filter_congr fun c hc => ?_
  by_cases hmem : c.name ∈ new.map StoredColumn.name
  · obtain ⟨s, hs, hname⟩ := List.mem_map.1 hmem
    have hc : c ∈ required := Column.mem_sort.1 hc
    obtain ⟨_, hfresh, hfind, hholds⟩ := wanted_of_name hnames hrecovered hnew hwanted hs hc hname
    have hrole := hroles c hc hfresh s (List.mem_append_right _ hs) hname
    rw [hfind, Definition.find?_ofColumns_eq_none.2 hfresh]
    simp [hholds.2 hrole]
  · rw [find?_append_of_not_mem hmem]

/-- No new column has a name that is too long. -/
theorem tooLong_append :
    ((Definition.ofColumns o (cols ++ new)).absent (Column.sort required)).filter
      (fun c => !Identifier.fits limit c.name) =
    ((Definition.ofColumns o cols).absent (Column.sort required)).filter
      fun c => !Identifier.fits limit c.name := by
  rw [Definition.absent, Definition.absent, List.filter_filter, List.filter_filter]
  refine List.filter_congr fun c hc => ?_
  by_cases hmem : c.name ∈ new.map StoredColumn.name
  · obtain ⟨s, hs, hname⟩ := List.mem_map.1 hmem
    have hfits :=
      (wanted_of_name hnames hrecovered hnew hwanted hs (Column.mem_sort.1 hc) hname).1
    simp [hfits]
  · rw [find?_append_of_not_mem hmem]

/-- New columns change nothing about what is missing exactly if all that were wanted are read
back with their roles. -/
theorem missing_eq_iff : Column.sort ((Definition.ofColumns o (cols ++ new)).gap limit
        (Column.sort required)).missing =
      Column.sort ((Definition.ofColumns o cols).gap limit (Column.sort required)).missing ↔
    ∀ c ∈ required, c.name ∉ cols.map StoredColumn.name →
      ∀ s ∈ cols ++ new, s.name = c.name → s.role o = c.role := by
  constructor
  · intro heq c hc hfresh s hs hname
    have hs : s ∈ new := by
      rcases List.mem_append.1 hs with hs | hs
      · exact absurd (List.mem_map.2 ⟨s, hs, hname⟩) hfresh
      · exact hs
    obtain ⟨hfits, _, hfind, hholds⟩ := wanted_of_name hnames hrecovered hnew hwanted hs hc hname
    -- with another role the column would be in conflict now, and was not before
    by_contra hrole
    have hmissing :
        c ∈ ((Definition.ofColumns o cols).gap limit (Column.sort required)).missing := by
      rw [← Column.mem_sort, ← heq, Column.mem_sort]
      refine Definition.mem_missing.2
        (.inl (Definition.mem_conflicts.2 ⟨Column.mem_sort.2 hc, _, hfind, ?_⟩))
      simpa [hrole] using hholds
    have hnone := Definition.find?_ofColumns_eq_none (o := o).2 hfresh
    rcases Definition.mem_missing.1 hmissing with hconflict | ⟨_, _, hnot⟩
    · obtain ⟨_, _, hsome, _⟩ := Definition.mem_conflicts.1 hconflict
      cases hnone.symm.trans hsome
    · cases hfits.symm.trans hnot
  · intro hroles
    have hconflicts := conflicts_append_of_roles hnames hrecovered hnew hwanted hroles
    have hlong := tooLong_append hnames hrecovered hnew hwanted
    simp only [Definition.gap, hconflicts, hlong]

end Missing

/-! ## Requests on a store in memory -/

/-- The store once nothing is planned to fail. -/
def MemoryStore.mended (s : MemoryStore) : MemoryStore :=
  { s with nextFailures := [], textFailures := [] }

namespace Manager

variable {o : Options} {r : Request} {createRest addRest : List Template}
  {m m₁ : Manager MemoryStore}

/-- The manager once nothing is planned to fail. -/
def mended (m : Manager MemoryStore) : Manager MemoryStore := { m with store := m.store.mended }

/-- The manager on a shared store that nobody else uses. -/
def shared (m : Manager MemoryStore) : Manager SharedStore where
  store := { memory := m.store }
  elapsed := m.elapsed
  cache := m.cache

/-- A request on the store in memory does what it does on a shared store that nobody else
uses. -/
theorem exists_shared (hr : r.IsSound o createRest addRest) (hcreate : r.createTemplates =
      .createTable :: createRest) (hwrites : m.store.otherWrites = []) :
    ∃ w', Request.Ensures True (createRest = [] ∧ addRest = []) o r (m.shared.workspace r)
        (m.ensure o r).1 w' ∧
      w'.store.memory = (m.ensure o r).2.store ∧ w'.store.IsUndisturbed ∧
      w'.definition = (m.ensure o r).2.cache.definition r.table ∧
      (m.store.tables.ProperAt (r.place o) → w'.store.tables.ProperAt (r.place o)) ∧
      (m.shared.store.IsHollow (r.place o) → w'.store.IsHollow (r.place o)) := by
  have halike : SharedStore.mirror.Managers m.shared m := ⟨⟨rfl, rfl⟩, rfl, rfl⟩
  obtain ⟨hanswer, ⟨_, hmemory⟩, _, hcache⟩ := SharedStore.mirror.ensure_managers o r halike
  obtain ⟨hundisturbed, hacts⟩ := ensure_undisturbed (o := o) hr.names (m.shared.workspace r)
    ⟨rfl, hwrites⟩
  have hlawful : (r.ensure o (m.shared.workspace r)).2.store.Lawful True := by
    intro a ha
    rcases hacts a ha with ha | ha
    · cases ha
    · exact ⟨ha.widens, fun _ => ha⟩
  have hensures := (Request.does_ensure hr (fun h => ⟨trivial, h⟩) (m.shared.workspace r)).2 hlawful
  refine ⟨(r.ensure o (m.shared.workspace r)).2, ?_, hmemory, hundisturbed, ?_, ?_, ?_⟩
  · rw [← hanswer]
    exact hensures
  · rw [← hcache]
    exact (Cache.definition_put_self _ _ _).symm
  · exact (ensure_proper (r.place o) hr.names (m.shared.workspace r)).2 hlawful
  · exact (Request.does_ensure_hollow hr hcreate (m.shared.workspace r)).2 hlawful

/-- A request on a store that is reached and for which nothing is planned. -/
theorem ensure_mended (hr : r.IsSound o createRest addRest) (he : r.IsEffective o)
    (hwrites : m.store.otherWrites = []) (hreached : m.shared.store.IsReached o)
    (hproper : m.store.tables.ProperAt (r.place o))
    (hfits : m.store.tables.columnsAt (r.place o) = [] →
      Identifier.fits o.identifierMaxBytes r.table = true)
    (hsettled : ∀ missing, r.settled? o (Column.sort r.required) (m.cache.definition r.table) =
      some missing →
        m.cache.definition r.table = .ofColumns o (m.store.tables.columnsAt (r.place o))) :
    (m.mended.ensure o r).1 = .ok (Column.sort ((Definition.ofColumns o
      (m.store.tables.columnsAt (r.place o))).gap o.identifierMaxBytes
        (Column.sort r.required)).missing) := by
  have halike : SharedStore.mirror.Managers m.mended.shared m.mended := ⟨⟨rfl, rfl⟩, rfl, rfl⟩
  rw [← (SharedStore.mirror.ensure_managers o r halike).1]
  have hcalm : m.mended.shared.store.IsCalm o :=
    ⟨⟨rfl, hwrites⟩, ⟨hreached.1, rfl, rfl⟩, hreached.2⟩
  exact Request.ensure_calm (w := m.mended.shared.workspace r) hr he hcalm hproper hfits hsettled

/-- The same for a table without columns. -/
theorem ensure_mended_hollow (hr : r.IsSound o createRest addRest)
    (hcreate : r.createTemplates = .createTable :: createRest) (hwrites : m.store.otherWrites = [])
    (hreached : m.shared.store.IsReached o) (hollow : m.shared.store.IsHollow (r.place o))
    (hfits : Identifier.fits o.identifierMaxBytes r.table = true)
    (haddable : ∃ c ∈ r.required, Identifier.fits o.identifierMaxBytes c.name = true)
    (hsettled : r.settled? o (Column.sort r.required) (m.cache.definition r.table) = none) :
    (m.mended.ensure o r).1 = .ok (Column.sort r.required) := by
  have halike : SharedStore.mirror.Managers m.mended.shared m.mended := ⟨⟨rfl, rfl⟩, rfl, rfl⟩
  rw [← (SharedStore.mirror.ensure_managers o r halike).1]
  have hcalm : m.mended.shared.store.IsCalm o :=
    ⟨⟨rfl, hwrites⟩, ⟨hreached.1, rfl, rfl⟩, hreached.2⟩
  exact Request.ensure_calm_hollow (w := m.mended.shared.workspace r) hr hcreate hcalm hollow hfits
    haddable hsettled

/-- A definition that lacks a column that may be added settles nothing. -/
theorem settled?_eq_none (hadd : r.addColumnTemplates ≠ []) {d : Definition} {c : Column}
    (hc : c ∈ r.required) (hfits : Identifier.fits o.identifierMaxBytes c.name = true)
    (hfind : d.find? c.name = none) : r.settled? o (Column.sort r.required) d = none := by
  rw [Request.settled?_eq hadd, if_neg]
  rintro ⟨_, hnil⟩
  have hmem : c ∈ (d.gap o.identifierMaxBytes (Column.sort r.required)).addable :=
    Definition.mem_addable.2 ⟨Column.mem_sort.2 hc, hfind, hfits⟩
  rw [hnil] at hmem
  cases hmem

/-- What a failure that may go away leaves behind: new columns of the table, marked or not, and
a definition that settles nothing. -/
structure LeavesBehind (single : Prop) (o : Options) (r : Request) (m m₁ : Manager MemoryStore)
    (new : List StoredColumn) : Prop where
  columns : m₁.store.tables.columnsAt (r.place o) = m.store.tables.columnsAt (r.place o) ++ new
  names : (new.map StoredColumn.name).Nodup
  wanted : ∀ s ∈ new, ∃ c ∈ r.required, Identifier.fits o.identifierMaxBytes c.name = true ∧
    c.name ∉ (m.store.tables.columnsAt (r.place o)).map StoredColumn.name ∧
      (s = c.marked ∨ ¬ single ∧ s = c.stored)
  writes : m₁.store.otherWrites = []
  reached : m₁.shared.store.IsReached o
  proper : m.store.tables.ProperAt (r.place o) → m₁.store.tables.ProperAt (r.place o)
  hollow : m.shared.store.IsHollow (r.place o) → m₁.shared.store.IsHollow (r.place o)
  addable : ∃ c ∈ r.required, Identifier.fits o.identifierMaxBytes c.name = true
  unsettled : r.settled? o (Column.sort r.required) (m₁.cache.definition r.table) = none
  fits : m.store.tables.columnsAt (r.place o) = [] →
    Identifier.fits o.identifierMaxBytes r.table = true

section Retry

variable (hr : r.IsSound o createRest addRest)
  (hcreate : r.createTemplates = .createTable :: createRest) (hwrites : m.store.otherWrites = [])
  (hreached : m.shared.store.IsReached o)
include hr hcreate hwrites hreached

theorem exists_leavesBehind {e : SchemaError} (hfail : m.ensure o r = (.error e, m₁))
    (htemporary : e.isTemporary = true) :
    ∃ new, LeavesBehind (createRest = [] ∧ addRest = []) o r m m₁ new := by
  obtain ⟨w', hensures, hmemory, hundisturbed, hdefinition, hproper, hhollow⟩ :=
    exists_shared hr hcreate hwrites
  rw [hfail] at hensures hmemory hdefinition
  obtain ⟨new, hnew, hwanted⟩ := hensures.table.grows
  obtain ⟨hnames, hwanted⟩ := hwanted trivial
  obtain ⟨c, hc, hfits, hfind⟩ := hensures.addable trivial hreached e rfl htemporary
  obtain ⟨first, hfirst, _⟩ := hr.add
  have hreached₁ := isReached_of_reach_eq (hensures.table.reach_eq trivial) hreached
  have htables : w'.store.tables = m₁.store.tables := congrArg MemoryStore.tables hmemory
  refine ⟨new, ?_, hnames, fun s hs => ?_, ?_, ?_, ?_, ?_, ⟨c, hc, hfits⟩, ?_, ?_⟩
  · rw [← htables]
    exact hnew
  · obtain ⟨d, hd, hfresh, hstored⟩ := hwanted s hs
    obtain ⟨hd, hdfits⟩ := List.mem_filter.1 hd
    exact ⟨d, hd, hdfits, hfresh, hstored⟩
  · rw [← hmemory]
    exact hundisturbed.writes
  · rw [IsReached, hmemory] at hreached₁
    exact hreached₁
  · rw [← htables]
    exact hproper
  · intro h
    have hollow₁ := hhollow h
    rw [IsHollow, htables] at hollow₁
    exact hollow₁
  · exact settled?_eq_none (by simp [hfirst]) hc hfits (hdefinition ▸ hfind)
  · exact hensures.fits trivial hreached e rfl htemporary

/-- What is reported about a table without columns does not change. -/
theorem retry_of_hollow {new : List StoredColumn} {single : Prop}
    (h : LeavesBehind single o r m m₁ new) (hollow : m.shared.store.IsHollow (r.place o))
    (hunknown : m.cache.definition r.table = .unknown) :
    (m.mended.ensure o r).1 = .ok (Column.sort r.required) ∧
      (m₁.mended.ensure o r).1 = .ok (Column.sort r.required) := by
  have hfits := h.fits hollow.columnsAt_eq
  obtain ⟨first, hfirst, _⟩ := hr.add
  obtain ⟨c, hc, hcfits⟩ := h.addable
  have hsettled : r.settled? o (Column.sort r.required) (m.cache.definition r.table) = none :=
    settled?_eq_none (by simp [hfirst]) hc hcfits (by rw [hunknown, Definition.find?_unknown])
  exact ⟨ensure_mended_hollow hr hcreate hwrites hreached hollow hfits h.addable hsettled,
    ensure_mended_hollow hr hcreate h.writes h.reached (h.hollow hollow) hfits h.addable
      h.unsettled⟩

omit hcreate in
/-- What is reported about any other table is what its columns conflict with. -/
theorem retry_of_proper (he : r.IsEffective o) {new : List StoredColumn} {single : Prop}
    (h : LeavesBehind single o r m m₁ new) (hproper : m.store.tables.ProperAt (r.place o))
    (hcoherent : (m.cache.definition r.table).isKnown = true →
      m.cache.definition r.table = .ofColumns o (m.store.tables.columnsAt (r.place o))) :
    (m.mended.ensure o r).1 = .ok (Column.sort ((Definition.ofColumns o
        (m.store.tables.columnsAt (r.place o))).gap o.identifierMaxBytes
          (Column.sort r.required)).missing) ∧
      (m₁.mended.ensure o r).1 = .ok (Column.sort ((Definition.ofColumns o
        (m.store.tables.columnsAt (r.place o) ++ new)).gap o.identifierMaxBytes
          (Column.sort r.required)).missing) := by
  have hfits₁ : m₁.store.tables.columnsAt (r.place o) = [] →
      Identifier.fits o.identifierMaxBytes r.table = true := by
    intro hnil
    rw [h.columns] at hnil
    exact h.fits (List.append_eq_nil_iff.1 hnil).1
  refine ⟨?_, ?_⟩
  · refine ensure_mended hr he hwrites hreached hproper h.fits fun missing hsettled =>
      hcoherent ?_
    by_contra hknown
    simp [Request.settled?, hknown] at hsettled
  · rw [← h.columns]
    refine ensure_mended hr he h.writes h.reached (h.proper hproper) hfits₁
      fun missing hsettled => ?_
    cases h.unsettled.symm.trans hsettled

/-- What an undisturbed request reports, and what a retry reports. -/
theorem retry_of_sound (he : r.IsEffective o)
    (hcoherent : (m.cache.definition r.table).isKnown = true →
      m.cache.definition r.table = .ofColumns o (m.store.tables.columnsAt (r.place o)))
    {e : SchemaError} (hfail : m.ensure o r = (.error e, m₁)) (htemporary : e.isTemporary = true) :
    ∃ missing retried, (m.mended.ensure o r).1 = .ok missing ∧
      (m₁.mended.ensure o r).1 = .ok retried ∧
      (retried = missing ↔ ∀ c ∈ r.required,
        c.name ∉ (m.store.tables.columnsAt (r.place o)).map StoredColumn.name →
          ∀ s ∈ m₁.store.tables.columnsAt (r.place o), s.name = c.name → s.role o = c.role) ∧
      (createRest = [] ∧ addRest = [] → retried = missing) := by
  obtain ⟨new, h⟩ := exists_leavesBehind hr hcreate hwrites hreached hfail htemporary
  by_cases hollow : m.shared.store.IsHollow (r.place o)
  · have hnil : m.store.tables.columnsAt (r.place o) = [] := hollow.columnsAt_eq
    have hnil₁ : m₁.store.tables.columnsAt (r.place o) = [] := (h.hollow hollow).columnsAt_eq
    have hunknown : m.cache.definition r.table = .unknown := by
      cases hknown : (m.cache.definition r.table).isKnown with
      | false => exact Definition.eq_unknown hknown
      | true =>
        rw [hcoherent hknown, hnil] at hknown
        cases hknown
    obtain ⟨hmissing, hretried⟩ := retry_of_hollow hr hcreate hwrites hreached h hollow hunknown
    refine ⟨_, _, hmissing, hretried, ⟨fun _ c _ _ s hs => ?_, fun _ => rfl⟩, fun _ => rfl⟩
    rw [hnil₁] at hs
    cases hs
  · obtain ⟨hmissing, hretried⟩ := retry_of_proper hr hwrites hreached he h hollow hcoherent
    have hiff := missing_eq_iff (o := o) hr.names hr.recovered h.names fun s hs => by
      obtain ⟨d, hd, hfits, hfresh, hstored⟩ := h.wanted s hs
      exact ⟨d, hd, hfits, hfresh, hstored.imp_right And.right⟩
    rw [h.columns]
    refine ⟨_, _, hmissing, hretried, hiff, fun hsingle => hiff.2 ?_⟩
    intro c hc hfresh s hs hname
    rcases List.mem_append.1 hs with hs | hs
    · exact absurd (List.mem_map.2 ⟨s, hs, hname⟩) hfresh
    · obtain ⟨d, hd, _, _, rfl | ⟨hnot, _⟩⟩ := h.wanted s hs
      · obtain rfl : d = c :=
          List.inj_on_of_nodup_map hr.names hd hc ((Column.marked_name d).symm.trans hname)
        exact (hr.recovered d hd).role
      · exact absurd hsingle hnot

end Retry

/-- A request for columns of a batch, with templates that begin with the default ones and go on
with harmless ones, failed in a way that may go away. Once nothing is planned to fail, a retry
reports what an undisturbed request would have reported exactly if every column that the
failed one stored is read back with its role. If there are no other templates, it is. -/
theorem retry_eq_iff (ho : o.HasFixedColumns) {b : TableBatch} (hb : b.Built o) (r : Request)
    (hrequired : r.required.Subperm (b.metricColumns o) ∨
      r.required.Subperm (b.tagTableColumns o))
    {create add : Template} (hparseCreate : Template.parse defaultCreateTemplate = .ok create)
    (hparseAdd : Template.parse defaultAddColumnTemplate = .ok add)
    (hcreate : r.createTemplates = create :: createRest)
    (hadd : r.addColumnTemplates = add :: addRest)
    (hcreateRest : ∀ cs, r.Wants cs → cs ≠ [] → ∀ template ∈ createRest,
      ∀ allColumns, template.IsHarmless (r.context o cs allColumns))
    (haddRest : ∀ c ∈ r.required, ∀ template ∈ addRest,
      ∀ allColumns, template.IsHarmless (r.context o [c] allColumns))
    (m : Manager MemoryStore) (hwrites : m.store.otherWrites = [])
    (honline : m.store.isOffline = false) (hfast : ¬ o.statementTimeout < m.store.latency)
    (hcoherent : (m.cache.definition r.table).isKnown = true →
      m.cache.definition r.table = .ofStored o (m.store.tables.find? (r.place o)))
    {e : SchemaError} (hfail : m.ensure o r = (.error e, m₁)) (htemporary : e.isTemporary = true) :
    ∃ missing retried, (m.mended.ensure o r).1 = .ok missing ∧
      (m₁.mended.ensure o r).1 = .ok retried ∧
      (retried = missing ↔ ∀ c ∈ r.required,
        c.name ∉ (m.store.tables.columnsAt (r.place o)).map StoredColumn.name →
          ∀ s ∈ m₁.store.tables.columnsAt (r.place o), s.name = c.name → s.role o = c.role) ∧
      (createRest = [] ∧ addRest = [] → retried = missing) := by
  obtain rfl := Except.ok.inj (hparseCreate.symm.trans Template.parse_defaultCreateTemplate)
  obtain rfl := Except.ok.inj (hparseAdd.symm.trans Template.parse_defaultAddColumnTemplate)
  have hnames : (r.required.map Column.name).Nodup := by
    rcases hrequired with ⟨cs, hperm, hsublist⟩ | ⟨cs, hperm, hsublist⟩
    · exact (hperm.map _).nodup_iff.1
        ((TableBatch.nodup_metricColumns ho hb.valid).sublist (hsublist.map _))
    · exact (hperm.map _).nodup_iff.1
        ((TableBatch.nodup_tagTableColumns ho hb.valid).sublist (hsublist.map _))
  have hrecovered : ∀ c ∈ r.required, c.IsRecovered o := by
    intro c hc
    rcases hrequired with h | h
    · exact TableBatch.recovered_metricColumns ho hb.valid (List.Subperm.subset h hc)
    · exact TableBatch.recovered_tagTableColumns ho hb.valid (List.Subperm.subset h hc)
  have hr : r.IsSound o createRest addRest :=
    Request.isSound_of_defaults hnames hrecovered (.inl rfl) hcreate hadd
      (fun cs allColumns hcs hne template ht => hcreateRest cs hcs hne template ht allColumns)
      fun c hc allColumns template ht => haddRest c hc template ht allColumns
  exact retry_of_sound hr hcreate hwrites ⟨honline, hfast⟩
    (Request.isEffective_of_defaults hrecovered hcreate hadd) hcoherent hfail htemporary

end Manager

/-! ## A tag without its comment -/

/-- A template that is only a comment. -/
def Template.audit : Template where
  source := "-- audit \x7b\x7b table \x7d\x7d"
  parts := [.text "-- audit ", .table .table .qualified]

def auditColumns : List Column := [⟨"time", .time, .timestamp⟩, ⟨"host", .tag, .text⟩]

/-- A request with a comment behind the statement that creates the table. -/
def auditRequest : Request where
  table := "cpu"
  required := auditColumns
  createTemplates := [.createTable, .audit]
  addColumnTemplates := [.addColumn]
  metricTable := "cpu"
  tagTable := none

/-- A manager of a store in which the comment fails. -/
def auditManager : Manager MemoryStore where
  store := { textFailures := [("-- audit", .connection "reset")] }

section Audit

open Reconciliation

def auditStatement : String :=
  "CREATE TABLE \"cpu\" (\"time\" timestamp without time zone, \"host\" text)"

theorem render_auditStatement : Template.createTable.render
    (auditRequest.context .plain auditColumns auditColumns) = .ok auditStatement := by cbv

theorem render_audit (cs allColumns : List Column) :
    Template.audit.render (auditRequest.context .plain cs allColumns) = .ok "-- audit \"cpu\"" := by
  cbv

/-- The comment does nothing. -/
theorem isHarmless_audit (cs allColumns : List Column) :
    Template.audit.IsHarmless (auditRequest.context .plain cs allColumns) := by
  have hread : Sql.statements? "-- audit \"cpu\"" = some [] := by cbv
  refine fun t _ => ⟨_, t, render_audit cs allColumns, ?_, rfl⟩
  simp [Catalog.run_of_statements _ hread, pure, Except.pure]

def auditAsked : MemoryStore := { auditManager.store with structureQueries := 1 }

def auditCreated : MemoryStore :=
  { auditAsked with
    tables := KeyMap.empty.insert ("", "cpu") (auditColumns.map Column.stored)
    executed := [auditStatement] }

theorem execute_auditStatement : auditAsked.execute auditStatement = (.ok (), auditCreated) := by
  have htext : auditAsked.landWrite.textFailure? auditStatement = none := by cbv
  have htypes : ∀ col ∈ auditColumns, ∀ s, col.type ≠ .other s := by simp [auditColumns]
  have hrun : auditAsked.landWrite.tables.run auditStatement = .ok auditCreated.tables :=
    Catalog.run_createTable render_auditStatement (by decide) (by decide) htypes
  rw [MemoryStore.execute_of_online rfl, MemoryStore.executeUndisturbed_eq_runText rfl htext,
    MemoryStore.runText_ok hrun]
  rfl

theorem execute_audit : auditCreated.execute "-- audit \"cpu\"" =
    (.error (.connection "reset"), auditCreated) := by
  have htext : auditCreated.landWrite.textFailure? "-- audit \"cpu\"" =
      some (.connection "reset") := by cbv
  rw [MemoryStore.execute_of_online rfl]
  simp only [MemoryStore.executeUndisturbed, htext]
  rfl

/-- One statement of a store that answers in time. -/
theorem runTemplate_of_execute {o : Options} {c : Template.Context} {template : Template}
    {sql : String} {w : Workspace MemoryStore} {answer : Except StoreError Unit} {s : MemoryStore}
    (hrender : template.render c = .ok sql) (hfast : ¬ o.statementTimeout < w.store.latency)
    (h : w.store.execute sql = (answer, s)) :
    Request.runTemplate o c template w =
      (answer.mapError .store, { w with store := s, elapsed := w.elapsed + w.store.latency }) := by
  unfold Request.runTemplate
  rw [hrender]
  exact run_bounded hfast h

def auditBetween : Workspace MemoryStore where
  store := auditCreated
  elapsed := Duration.zero + auditAsked.latency

/-- What is left when the comment has failed. -/
def auditFailed : Workspace MemoryStore :=
  { auditBetween with elapsed := auditBetween.elapsed + auditCreated.latency }

theorem carryOut_audit :
    auditRequest.carryOut .plain [.createTable, .audit] auditColumns auditColumns
    { store := auditAsked } = (.error (.store (.connection "reset")), auditFailed) := by
  have hfast : ¬ Options.plain.statementTimeout < Duration.zero := by decide
  have hcreate : Request.runTemplate .plain (auditRequest.context .plain auditColumns auditColumns)
      .createTable { store := auditAsked } = (.ok ⟨⟩, auditBetween) :=
    runTemplate_of_execute (w := { store := auditAsked }) render_auditStatement hfast
      execute_auditStatement
  have hcomment : Request.runTemplate .plain (auditRequest.context .plain auditColumns auditColumns)
      .audit auditBetween = (.error (.store (.connection "reset")), auditFailed) :=
    runTemplate_of_execute (w := auditBetween) (render_audit _ _) hfast execute_audit
  refine run_bind_of_error ?_
  rw [List.forM_eq_forM, List.forM_cons, run_bind_of_ok hcreate, List.forM_cons,
    run_bind_of_error hcomment]

theorem change_audit : auditRequest.change .plain (Column.sort auditRequest.required)
    { store := auditAsked } = (.error (.store (.connection "reset")), auditFailed) := by
  have htable : auditRequest.createTable .plain auditColumns { store := auditAsked } =
      (.error (.store (.connection "reset")), auditFailed) :=
    (run_bind_of_ok (run_attempt carryOut_audit)).trans rfl
  have hcreate :
      auditRequest.create .plain auditColumns ⟨auditColumns, []⟩ { store := auditAsked } =
      (.error (.store (.connection "reset")), auditFailed) :=
    (run_bind_of_ok (run_attempt htable)).trans rfl
  have hsort : Column.sort auditRequest.required = auditColumns := by cbv
  have hgap : Definition.unknown.gap Options.plain.identifierMaxBytes auditColumns =
      ⟨auditColumns, []⟩ := by decide
  have htemplates : auditRequest.createTemplates.isEmpty = false := rfl
  have hfits : Identifier.fits Options.plain.identifierMaxBytes auditRequest.table = true := by
    decide
  have hcolumns : auditColumns.isEmpty = false := rfl
  unfold Request.change
  rw [hsort, run_bind_of_ok (show known { store := auditAsked } = (.ok .unknown, _) from rfl)]
  simp only [hgap, htemplates, hfits, hcolumns, Definition.isKnown_unknown, Bool.not_true,
    Bool.false_eq_true, if_false]
  exact hcreate

/-- The table is created, and then the comment fails. -/
theorem ensure_auditManager : ∃ m₁, auditManager.ensure .plain auditRequest =
      (.error (.store (.connection "reset")), m₁) ∧
    m₁.store.tables.columnsAt (auditRequest.place .plain) = auditColumns.map Column.stored := by
  let start : Workspace MemoryStore := { store := auditManager.store }
  have hrefresh : auditRequest.refresh .plain start = (.ok ⟨⟩, { store := auditAsked }) := rfl
  have hsettled :
      auditRequest.settled? .plain (Column.sort auditRequest.required) .unknown = none :=
    rfl
  have hensure : auditRequest.ensure .plain start =
      (.error (.store (.connection "reset")), auditFailed) := by
    unfold Request.ensure
    rw [run_bind_of_ok (show known start = (.ok .unknown, start) from rfl), hsettled]
    exact (run_bind_of_ok hrefresh).trans change_audit
  refine ⟨(auditManager.ensure .plain auditRequest).2, Prod.ext ?_ rfl, ?_⟩
  · show (auditRequest.ensure .plain start).1 = _
    rw [hensure]
  · show (auditRequest.ensure .plain start).2.store.tables.columnsAt _ = _
    rw [hensure]
    rfl

theorem sublist_auditColumns : auditColumns.Sublist (TableBatch.sample.metricColumns .plain) := by
  decide

theorem isSound_auditRequest : auditRequest.IsSound .plain [.audit] [] := by
  have hvalid := TableBatch.built_sample.valid
  have hfixed := Options.hasFixedColumns_plain
  refine Request.isSound_of_defaults ((TableBatch.nodup_metricColumns hfixed hvalid).sublist
    (sublist_auditColumns.map _)) (fun c hc => TableBatch.recovered_metricColumns hfixed hvalid
      (sublist_auditColumns.subset hc)) (.inl rfl) rfl rfl ?_ (by simp)
  rintro cs allColumns _ _ template htemplate
  rw [List.mem_singleton.1 htemplate]
  exact isHarmless_audit cs allColumns

/-- The retry reports the tag, which an undisturbed request would have created. -/
theorem retry_reports_tag : ∃ e m₁, auditManager.ensure .plain auditRequest = (.error e, m₁) ∧
    e.isTemporary = true ∧
    (auditManager.mended.ensure .plain auditRequest).1 = .ok [] ∧
    (m₁.mended.ensure .plain auditRequest).1 = .ok [⟨"host", .tag, .text⟩] := by
  obtain ⟨m₁, hfail, hcolumns⟩ := ensure_auditManager
  have hr := isSound_auditRequest
  have hreached : auditManager.shared.store.IsReached .plain := ⟨rfl, by decide⟩
  obtain ⟨new, h⟩ := Manager.exists_leavesBehind hr rfl rfl hreached hfail rfl
  obtain ⟨hmissing, hretried⟩ := Manager.retry_of_proper hr rfl hreached
    (Request.isEffective_of_defaults hr.recovered rfl rfl) h (fun h => nomatch h)
    (fun h => nomatch h)
  rw [← h.columns, hcolumns] at hretried
  refine ⟨_, m₁, hfail, rfl, hmissing.trans ?_, hretried.trans ?_⟩
  · cbv
  · cbv

theorem retry_eq_iff_audit : ∃ e m₁ missing retried,
    auditManager.ensure .plain auditRequest = (.error e, m₁) ∧
    (auditManager.mended.ensure .plain auditRequest).1 = .ok missing ∧
    (m₁.mended.ensure .plain auditRequest).1 = .ok retried ∧
    (retried = missing ↔ ∀ c ∈ auditColumns,
      c.name ∉ (auditManager.store.tables.columnsAt ("", "cpu")).map StoredColumn.name →
        ∀ s ∈ m₁.store.tables.columnsAt ("", "cpu"), s.name = c.name → s.role .plain = c.role) ∧
    ([Template.audit] = [] ∧ ([] : List Template) = [] → retried = missing) := by
  obtain ⟨m₁, hfail, _⟩ := ensure_auditManager
  obtain ⟨missing, retried, h⟩ := Manager.retry_eq_iff Options.hasFixedColumns_plain
    TableBatch.built_sample auditRequest (.inl sublist_auditColumns.subperm)
    Template.parse_defaultCreateTemplate Template.parse_defaultAddColumnTemplate rfl rfl
    (fun cs _ _ template ht allColumns => List.mem_singleton.1 ht ▸ isHarmless_audit cs allColumns)
    (by simp) auditManager rfl rfl (by decide) (fun h => nomatch h) hfail rfl
  exact ⟨_, m₁, missing, retried, hfail, h⟩

end Audit

end MetricTables
