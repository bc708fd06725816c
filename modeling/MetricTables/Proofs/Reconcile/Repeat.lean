import MetricTables.Proofs.Locality
import MetricTables.Proofs.Reconcile.Learning
import MetricTables.Proofs.Reconcile.Race

/-!
# Requests that come again

A request that ended with success, and that knew its table then, costs nothing when it comes again:
it gives the same missing columns and does not ask the store, whatever became of that. How the first
one ended does not matter: it may have created the table, lost a race for it, added columns or met
conflicts only. But the table must not get a name twice, and the columns must be read back in the
roles that they are asked for in. Otherwise what is known in the end may leave other columns missing
than were told.

## Main statements

* `ensure_again` — a request that comes again gives the same and does nothing.
* `ensure_not_again` — requests that give something else when they come again.
-/

namespace MetricTables

namespace Manager

variable {σ : Type} [Store σ] {o : Options} {r : Request}

/-- What is kept of the table settles the request, and so it does nothing. -/
theorem ensure_put_settled {d : Definition} {missing : List Column}
    (h : r.settled? o (Column.sort r.required) d = some missing) (c : Cache) (store : σ)
    (elapsed : Duration) :
    (⟨store, elapsed, c.put r.table d⟩ : Manager σ).ensure o r =
      (.ok missing, ⟨store, elapsed, c.put r.table d⟩) := by
  have hdefinition : (c.put r.table d).definition r.table = d := by simp
  rw [ensure_of_run (Request.ensure_of_settled (hdefinition ▸ h)), hdefinition, Cache.put_put]

/-- With the default templates, a request for columns of a batch that ended with success and that
knew its table then gives the same missing columns when it comes again, and does nothing at all:
the store is not even asked, and so it may be any store, or be offline. While the first request
went on anything may have failed, and others may have appended columns, as long as none has a name
that the table has already, or one that is too long. -/
theorem ensure_again {b : TableBatch} {missing : List Column} {m m' : Manager SharedStore}
    (ho : o.HasTypes) (hb : b.Built o)
    (hrequired : ∀ c ∈ r.required, c ∈ b.metricColumns o ∨ c ∈ b.tagTableColumns o)
    (hnames : (r.required.map Column.name).Nodup)
    (hroles : ∀ c ∈ r.required, c.marked.role o = c.role)
    (hcreate : Options.readTemplates [defaultCreateTemplate] = .ok r.createTemplates ∨
      Options.readTemplates [defaultTagTableCreateTemplate] = .ok r.createTemplates)
    (hadd : Options.readTemplates [defaultAddColumnTemplate] = .ok r.addColumnTemplates)
    (hfirst : m.ensure o r = (.ok missing, m'))
    (hknown : (m'.cache.definition r.table).isKnown = true)
    (hothers : m'.store.Appended (r.place o))
    (hfits : ∀ name ∈ m'.store.tables.namesAt (r.place o),
      Identifier.fits o.identifierMaxBytes name = true) (s : SharedStore) :
    ({ m' with store := s } : Manager SharedStore).ensure o r =
      (.ok missing, { m' with store := s }) := by
  obtain ⟨template, htemplate, hcreate, -⟩ := exists_defaults hcreate (.inl hadd)
  have hadd := Except.ok.inj (hadd.symm.trans Options.readTemplates_default.2.2)
  have hrecovered : ∀ c ∈ r.required, c.IsRecovered o := fun c hc =>
    ⟨TableBatch.type_of_needs ho hb.valid (hrequired c hc), hroles c hc⟩
  have hsound : r.IsSound o [] [] :=
    Request.isSound_of_defaults hnames hrecovered htemplate hcreate hadd (by simp) (by simp)
  rcases hrun : r.ensure o (m.workspace r) with ⟨answer, w'⟩
  have hended := ensure_of_run hrun
  rw [hfirst] at hended
  cases hended
  have hadds := (ensure_naming (o := o) (r.place o) hnames (m.workspace r)).2
  have hsettles := (@Request.does_ensure_settles False o r [] [] hsound (m.workspace r)).2
  rw [hrun] at hadds hsettles
  refine ensure_put_settled (hsettles hothers.lawful missing rfl ?_ (hadds hothers) hfits) _ s _
  simpa using hknown

/-- The table of hosts as another writer is about to leave it: hosts are numbers, and there are
regions. -/
def regions : List StoredColumn :=
  [{ name := "time", type := "timestamp without time zone" }, { name := "host", type := "bigint" },
    { name := "region", type := "text", comment := some tagComment }]

def numbered : MemoryStore where
  tables := KeyMap.empty.insert ("", "cpu") (regions.take 2)

def withRegions : MemoryStore :=
  { numbered with tables := numbered.tables.insert ("", "cpu") regions }

/-- The store of numbered hosts, where regions come just before it is asked. -/
def numberedHosts : Manager SharedStore where
  store := { memory := numbered, turns := [fun _ => withRegions] }

/-- The store was asked, and the regions are known. -/
def knownRegions : Manager SharedStore where
  store :=
    { memory := { withRegions with structureQueries := 1 }, acts := [⟨numbered, withRegions⟩] }
  cache := ({} : Cache).put "cpu" (.ofColumns .plain regions)

def regionBatch : TableBatch :=
  TableBatch.push .plain { name := "cpu" }
    { name := "cpu"
      tags := (KeyMap.empty.insert "host" "a").insert "region" "b"
      fields := KeyMap.empty.insert "usage" (.int 1)
      timestamp := default }

def regionHosts : Request := hostRequest [⟨"host", .tag, .text⟩, ⟨"region", .tag, .text⟩]

theorem ensure_regionHosts : numberedHosts.ensure .plain regionHosts =
    (.ok [⟨"host", .tag, .text⟩], knownRegions) := by
  cbv

theorem ensure_again_regionHosts :
    numberedHosts.ensure .plain regionHosts = (.ok [⟨"host", .tag, .text⟩], knownRegions) ∧
      (knownRegions.cache.definition "cpu").isKnown = true ∧
        knownRegions.store.Appended ("", "cpu") ∧
      ∀ s : SharedStore,
        ({ knownRegions with store := s } : Manager SharedStore).ensure .plain regionHosts =
          (.ok [⟨"host", .tag, .text⟩], { knownRegions with store := s }) := by
  have hrequired : ∀ c ∈ regionHosts.required,
      c ∈ regionBatch.metricColumns .plain ∨ c ∈ regionBatch.tagTableColumns .plain := by
    decide
  have hknown : (knownRegions.cache.definition "cpu").isKnown = true := by decide
  have hothers : knownRegions.store.Appended ("", "cpu") := by
    intro a ha
    obtain rfl := List.mem_singleton.1 ha
    exact ⟨Catalog.widens_insert (by decide), ["region"], by decide, by decide,
      List.singleton_disjoint.2 (by decide)⟩
  exact ⟨ensure_regionHosts, hknown, hothers, ensure_again (b := regionBatch)
    Options.hasFixedColumns_plain.hasTypes (.push _ (.new _)) hrequired (by decide)
    (by decide) (.inl Options.readTemplates_default.1) Options.readTemplates_default.2.2
    ensure_regionHosts hknown hothers (by decide)⟩

/-! ## Requests that change their mind -/

section Contested

variable {m : Manager MemoryStore} {stored winner : List StoredColumn}

/-- A request adds all that is lacking while another writer is there before it. What it knows in the
end then tells of the columns that are missing when it comes again. -/
theorem ensure_twice (hw : m.store.IsContested o (r.place o) winner)
    (hunknown : m.cache.definition r.table = .unknown)
    (hstored : m.store.tables.columnsAt (r.place o) = stored) (hne : stored ≠ [])
    (hadd : r.addColumnTemplates = [.addColumn]) {cs : List Column}
    (hgap : r.gapOn o stored = { addable := cs, missing := [] }) (hcs : cs ≠ [])
    {w' : Workspace MemoryStore}
    (hadded : RunsTo (r.addColumns o cs) (r.asked o { store := m.store }).landed (.ok []) w')
    {missing : List Column}
    (hsettled : r.settled? o (Column.sort r.required) w'.definition = some missing) :
    ∃ m', m.ensure o r = (.ok [], m') ∧ (m'.cache.definition r.table).isKnown = true ∧
      (m'.ensure o r).1 = .ok missing := by
  let w : Workspace MemoryStore := { store := m.store }
  have hextend : RunsTo (r.extend o (r.gapOn o stored)) (r.asked o w) (.ok []) w' := by
    have hbehind : RunsTo (r.extend o ⟨cs, []⟩) (r.asked o w).landed (.ok (Column.sort [])) w' :=
      Request.extend_of_added hadd hcs hadded
    rw [Column.sort_nil] at hbehind
    rw [hgap]
    exact (Request.extend_lands (Request.asked_contested hw) hadd hcs).runsTo hbehind
  have hchange := Request.change_of_extend (w := r.asked o w) (hstored ▸ rfl) hne hextend
  have hrun := Request.ensure_asks (w := w) (Request.settled?_unknown _)
    ((Request.refresh_runs hw.responds).bind hchange)
  have hw : w = { store := m.store, definition := m.cache.definition r.table } := by rw [hunknown]
  obtain ⟨elapsed, hensure⟩ := ensure_of_runsTo (hw ▸ hrun)
  refine ⟨_, hensure, ?_, ?_⟩
  · simpa using (Request.settled?_eq_some hsettled).1
  · rw [ensure_put_settled hsettled]

end Contested

/-- The table of times and texts as another writer is about to leave it: there is a second column
of one name, and more texts. -/
def textsAndMore : List StoredColumn := twice ++ [{ name := "b", type := "text" }]

/-- Another writer is about to change the table of times and texts. -/
def moreTextsDue : Manager MemoryStore :=
  contested (KeyMap.empty.insert ("", "cpu") texts) textsAndMore

def textBatch : TableBatch :=
  TableBatch.push .plain { name := "cpu" }
    { name := "cpu"
      tags := KeyMap.empty
      fields := (KeyMap.empty.insert "a" (.text "x")).insert "b" (.text "y")
      timestamp := default }

theorem ensure_moreTexts : ∃ m', moreTextsDue.ensure .plain moreTexts = (.ok [], m') ∧
    (m'.cache.definition "cpu").isKnown = true ∧
      (m'.ensure .plain moreTexts).1 = .ok [⟨"a", .field, .text⟩] := by
  have hw : moreTextsDue.store.IsContested .plain (moreTexts.place .plain) textsAndMore :=
    ⟨⟨rfl, by decide⟩, rfl, rfl, rfl⟩
  have hasked := Request.asked_contested (w := { store := moreTextsDue.store }) hw
  have hgap : moreTexts.gapOn .plain texts = ⟨[⟨"b", .field, .text⟩], []⟩ := by cbv
  have htaken := Request.tryAddColumn_taken (r := moreTexts) (c := ⟨"b", .field, .text⟩)
    (w := (moreTexts.asked .plain { store := moreTextsDue.store }).landed)
    hasked.quiet rfl (by simp) hasked.find?_landed (by decide)
  have hheld : ((Definition.ofColumns .plain textsAndMore).find? "b" |>.any
      fun existing => existing.holds ⟨"b", .field, .text⟩) = true := by decide
  rw [hheld] at htaken
  have hnone : ∀ w : Workspace MemoryStore,
      RunsTo (moreTexts.addColumns .plain []) w (.ok []) w := .pure []
  have hadded := Request.addColumns_of_added htaken (hnone _)
  have hsettled : moreTexts.settled? .plain (Column.sort moreTexts.required)
      (.ofColumns .plain textsAndMore) = some [⟨"a", .field, .text⟩] := by cbv
  exact ensure_twice hw rfl (by decide) (by decide) rfl hgap (List.cons_ne_nil _ _) hadded hsettled

/-- All tags are kept in one column, and the key of tags is called like that column. -/
def keyCalledTags : Options :=
  { Options.plain with tagsAsJson := true, tagIdColumn := ⟨tagsJsonName, .tagId, .bigInt⟩ }

/-- The table of times with a column that the other writer adds. -/
def usedTimes : List StoredColumn :=
  [{ name := "time", type := "timestamp without time zone" }, { name := "usage", type := "bigint" }]

/-- Another writer is about to change the table of times. -/
def usageDue : Manager MemoryStore := contested times usedTimes

def usageBatch : TableBatch :=
  TableBatch.push keyCalledTags { name := "cpu" }
    { name := "cpu"
      tags := KeyMap.empty
      fields := KeyMap.empty.insert "usage" (.int 1)
      timestamp := default }

def usageRequest : Request :=
  hostRequest [⟨"time", .time, .timestamp⟩, ⟨tagsJsonName, .tag, .jsonb⟩,
    ⟨"usage", .field, .bigInt⟩]

theorem ensure_usageRequest : ∃ m', usageDue.ensure keyCalledTags usageRequest = (.ok [], m') ∧
    (m'.cache.definition "cpu").isKnown = true ∧
      (m'.ensure keyCalledTags usageRequest).1 = .ok [⟨tagsJsonName, .tag, .jsonb⟩] := by
  have hw : usageDue.store.IsContested keyCalledTags (usageRequest.place keyCalledTags) usedTimes :=
    ⟨⟨rfl, by decide⟩, rfl, rfl, rfl⟩
  have hasked := Request.asked_contested (w := { store := usageDue.store }) hw
  have hgap : usageRequest.gapOn keyCalledTags (usedTimes.take 1) =
      ⟨[⟨tagsJsonName, .tag, .jsonb⟩, ⟨"usage", .field, .bigInt⟩], []⟩ := by cbv
  have htags := Request.tryAddColumn_runs (r := usageRequest) (c := ⟨tagsJsonName, .tag, .jsonb⟩)
    (w := (usageRequest.asked keyCalledTags { store := usageDue.store }).landed)
    hasked.quiet rfl (by simp) hasked.find?_landed (by decide)
  have htaken := Request.tryAddColumn_taken (r := usageRequest) (c := ⟨"usage", .field, .bigInt⟩)
    (w := usageRequest.extended keyCalledTags
      (usageRequest.asked keyCalledTags { store := usageDue.store }).landed usedTimes
      [⟨tagsJsonName, .tag, .jsonb⟩])
    (hasked.quiet.change _ _ _) rfl (by simp) (KeyMap.find?_insert_self ..) (by decide)
  have hheld : ((Definition.ofColumns keyCalledTags
      (usedTimes ++ [⟨tagsJsonName, .tag, .jsonb⟩].map Column.marked)).find? "usage" |>.any
        fun existing => existing.holds ⟨"usage", .field, .bigInt⟩) = true := by decide
  rw [hheld] at htaken
  have hnone : ∀ w : Workspace MemoryStore,
      RunsTo (usageRequest.addColumns keyCalledTags []) w (.ok []) w := .pure []
  have hadded := Request.addColumns_of_added htags (Request.addColumns_of_added htaken (hnone _))
  have hsettled : usageRequest.settled? keyCalledTags (Column.sort usageRequest.required)
      (.ofColumns keyCalledTags (usedTimes ++ [⟨tagsJsonName, .tag, .jsonb⟩].map Column.marked)) =
        some [⟨tagsJsonName, .tag, .jsonb⟩] := by cbv
  exact ensure_twice hw rfl (by decide) (by decide) rfl hgap (List.cons_ne_nil _ _) hadded hsettled

/-- A request that ended with nothing missing and that knew its table then may give a missing column
when it comes again: another writer appended a second column of one name, or a column is kept in
another role than it is asked for in, since the key of tags is called like the column of all tags.
The request learns of either only by asking the store again. -/
theorem ensure_not_again :
    (textBatch.Built .plain ∧ moreTexts.required = textBatch.metricColumns .plain ∧
      texts <+: textsAndMore ∧
      (∀ s ∈ textsAndMore, Identifier.fits Options.plain.identifierMaxBytes s.name = true) ∧
      ∃ m', moreTextsDue.ensure .plain moreTexts = (.ok [], m') ∧
        (m'.cache.definition "cpu").isKnown = true ∧
          (m'.ensure .plain moreTexts).1 = .ok [⟨"a", .field, .text⟩]) ∧
    (Options.ofConfig { tagsAsJson := true, tagIdColumnName := tagsJsonName } = .ok keyCalledTags ∧
      usageBatch.Built keyCalledTags ∧
      usageRequest.required = usageBatch.metricColumns keyCalledTags ∧
      AddsNames ["time"] (usedTimes.map StoredColumn.name) ∧
      (∀ s ∈ usedTimes, Identifier.fits keyCalledTags.identifierMaxBytes s.name = true) ∧
      ∃ m', usageDue.ensure keyCalledTags usageRequest = (.ok [], m') ∧
        (m'.cache.definition "cpu").isKnown = true ∧
          (m'.ensure keyCalledTags usageRequest).1 = .ok [⟨tagsJsonName, .tag, .jsonb⟩]) := by
  have hconfig : Options.ofConfig { tagsAsJson := true, tagIdColumnName := tagsJsonName } =
      .ok keyCalledTags := by
    obtain ⟨hcreate, htagCreate, hadd⟩ := Options.readTemplates_default
    simp only [Options.ofConfig, hcreate, htagCreate, hadd]
    rfl
  have htexts : moreTexts.required = textBatch.metricColumns .plain := by decide
  have husage : usageRequest.required = usageBatch.metricColumns keyCalledTags := by decide
  exact ⟨⟨.push _ (.new _), htexts, by decide, by decide, ensure_moreTexts⟩,
    hconfig, .push _ (.new _), husage, AddsNames.single (n := "usage") (by decide), by decide,
    ensure_usageRequest⟩

end Manager

end MetricTables
