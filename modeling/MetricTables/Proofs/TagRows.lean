import MetricTables.Proofs.Derivation

/-!
# Rows and tag rows in step

If tags are kept in a table of their own, a row names its tags by their key. Records that
come and columns that are given up, in whatever order, leave no row without its tag row and
no tag row without a row.

## Main definitions

* `TableBatch.Action`, `TableBatch.after` — what is done to a batch, and the batch after it.
* `TableBatch.survivors` — the records that are still to be written.
* `TableBatch.InStep` — how a batch goes with the records that were added to it.

## Main statements

* `inStep_push`, `inStep_dropColumn` — an action keeps records and tag sets in step.
* `rows_after` — the rows and the tag rows after some actions.
-/

namespace MetricTables

namespace TableBatch

/-! ## Actions -/

/-- What is done to a batch. -/
inductive Action where
  | push (m : Metric)
  | drop (c : Column)

/-- A batch after an action. A column that cannot be given up stays. -/
def act (o : Options) (b : TableBatch) : Action → TableBatch
  | .push m => b.push o m
  | .drop c =>
    match b.dropColumn o c with
    | .ok b' => b'
    | .error _ => b

/-- The batch of a table after some actions. -/
def after (o : Options) (name : String) (actions : List Action) : TableBatch :=
  actions.foldl (act o) { name }

def Action.record? : Action → Option Metric
  | .push m => some m
  | .drop _ => none

def pushed (actions : List Action) : List Metric := actions.filterMap Action.record?

/-- The records whose tag sets are still to be written. -/
def survivors (o : Options) (b : TableBatch) (ms : List Metric) : List Metric :=
  ms.filter fun m => b.isKept (m.keptTags o).id

/-- What a batch keeps of a record whatever happens to its fields. -/
structure Heading where
  tagId : Int64
  tags : Tags
  timestamp : Instant

def heading (o : Options) (m : Metric) : Heading := ⟨(m.keptTags o).id, m.keptTags o, m.timestamp⟩

def Entry.heading (e : Entry) : Heading := ⟨e.tagId, e.metric.tags, e.metric.timestamp⟩

/-- How a batch goes with the records that were added to it. A tag set that is still to be
written has all its columns. -/
structure InStep (o : Options) (ms : List Metric) (b : TableBatch) : Prop where
  entries : b.entries.map Entry.heading = ms.map (heading o)
  tagSet : ∀ id, b.tagSets.find? id = (ms.map (Metric.keptTags o)).find? (·.id == id)
  tagColumn : o.tagsAsJson = false → ∀ id tags, b.tagSets.find? id = some tags →
    b.isKept id = true → ∀ k, tags.contains k = true → b.tagColumns.contains k = true

variable {o : Options} {b b' : TableBatch} {ms : List Metric} {c : Column}

theorem inStep_new (o : Options) (name : String) : InStep o [] { name } where
  entries := rfl
  tagSet _ := rfl
  tagColumn _ _ _ hfind := by cases hfind

/-- A record keeps a batch in step. -/
theorem inStep_push (h : InStep o ms b) (hb : b.Valid o) (m : Metric) :
    InStep o (ms ++ [m]) (b.push o m) := by
  obtain ⟨fields, hfields⟩ : ∃ fields, b.acceptedFields o (m.keptTags o) m.fields = fields :=
    ⟨_, rfl⟩
  have hwidened := widened_widen (o := o) hb.fieldNames (m.keptTags o) fields
  obtain ⟨_, htagSets, hlost, _⟩ := hwidened.others_eq
  rw [push_eq b m hfields]
  refine ⟨?_, fun id => ?_, fun hjson id tags hfind hkept k hk => ?_⟩
  · simp only [hwidened.entries, List.map_append, List.map_map, ← h.entries]
    rfl
  · simp only [htagSets]
    exact find?_insertNew_keptTags h.tagSet m id
  · simp only [htagSets, KeyMap.find?_insertNew, Option.or_eq_some_iff] at hfind
    simp only [isKept, hlost] at hkept
    simp only [ColumnList.contains_eq_isSome, hwidened.tagColumn, hjson, true_and]
    rcases hfind with hfind | ⟨_, hfind⟩
    · have hcolumn := h.tagColumn hjson id tags hfind hkept k hk
      rw [ColumnList.contains_eq_isSome] at hcolumn
      rw [Option.isSome_or, hcolumn, Bool.true_or]
    · obtain ⟨_, htags⟩ := Option.ite_none_right_eq_some.1 hfind
      obtain rfl := Option.some.inj htags
      simp [hk]

/-- The key of a tag set with a tag is given up together with the tag. -/
theorem isKept_dropTag {name : String} {id : Int64} {tags : Tags}
    (hname : b.tagColumns.contains name = true) (hfind : b.tagSets.find? id = some tags) :
    (b.dropTag name).isKept id = (b.isKept id && !tags.contains name) := by
  rw [ColumnList.contains_eq_isSome] at hname
  obtain ⟨c, hc⟩ := Option.isSome_iff_exists.1 hname
  have hmem : id ∈ (b.tagSets.filter fun _ tags => tags.contains name).keys ↔
      tags.contains name = true := by
    rw [KeyMap.mem_keys, KeyMap.contains, KeyMap.find?_filter, hfind]
    cases htag : tags.contains name <;> simp [Option.filter, htag]
  have hkept : (b.dropTag name).isKept id = !((b.lostTagSets ++
      (b.tagSets.filter fun _ tags => tags.contains name).keys).contains id) := by
    rw [dropTag, hc, isKept]
  rw [hkept, isKept, Bool.eq_iff_iff]
  simp [hmem]

/-- Giving up a column keeps a batch in step. -/
theorem inStep_dropColumn (h : InStep o ms b) (hb : b.Valid o) (hdrop : b.dropColumn o c = .ok b') :
    InStep o ms b' := by
  rcases dropColumn_eq hdrop with ⟨_, _, rfl⟩ | ⟨_, _, rfl⟩
  · cases hc : b.tagColumns.find? c.name with
    | none => simpa [dropTag, hc] using h
    | some d =>
      have hcolumn : b.tagColumns.contains c.name = true := by
        rw [ColumnList.contains_eq_isSome, hc]
        rfl
      have hdropTag : (b.dropTag c.name).entries = b.entries ∧
          (b.dropTag c.name).tagSets = b.tagSets ∧
          (b.dropTag c.name).tagColumns = b.tagColumns.erase c.name := by
        simp [dropTag, hc]
      obtain ⟨hentries, htagSets, htagColumns⟩ := hdropTag
      refine ⟨hentries ▸ h.entries, htagSets ▸ h.tagSet, fun hjson id tags hfind hkept k hk => ?_⟩
      rw [htagSets] at hfind
      rw [isKept_dropTag hcolumn hfind, Bool.and_eq_true, Bool.not_eq_true'] at hkept
      have hne : k ≠ c.name := by
        rintro rfl
        cases hk.symm.trans hkept.2
      have hold := h.tagColumn hjson id tags hfind hkept.1 k hk
      rw [ColumnList.contains_eq_isSome] at hold ⊢
      rwa [htagColumns, ColumnList.find?_erase hb.tagNames, if_neg hne]
  · unfold dropField
    split
    · exact h
    · exact ⟨h.entries, h.tagSet, h.tagColumn⟩

/-- After some actions a batch is in step with the records that they added. -/
theorem inStep_after (o : Options) (name : String) (actions : List Action) :
    InStep o (pushed actions) (after o name actions) ∧ (after o name actions).Built o := by
  induction actions using List.reverseRecOn with
  | nil => exact ⟨inStep_new o name, .new name⟩
  | append_singleton actions action ih =>
    obtain ⟨hstep, hbuilt⟩ := ih
    rw [pushed, List.filterMap_append, ← pushed, after, List.foldl_concat, ← after]
    cases action with
    | push m => exact ⟨inStep_push hstep hbuilt.valid m, .push m hbuilt⟩
    | drop c =>
      have hsame : pushed actions ++ [Action.drop c].filterMap Action.record? = pushed actions :=
        List.append_nil _
      rw [hsame, act]
      split
      next hdrop => exact ⟨inStep_dropColumn hstep hbuilt.valid hdrop, .dropColumn hbuilt hdrop⟩
      · exact ⟨hstep, hbuilt⟩

/-! ## Rows -/

/-- If tags have a table of their own, a row starts with the time and the key. -/
theorem rows_of_tagsAsForeignKeys (ho : o.HasRoles) (hkeys : o.tagsAsForeignKeys = true)
    (b : TableBatch) : b.rows o = b.kept.map fun e =>
      .timestamp e.metric.timestamp :: .int e.tagId :: (b.fieldPart o).map fun c => cell o c e := by
  refine List.map_congr_left fun e _ => ?_
  simp [metricColumns, hkeys, cell, ho.time, ho.tagId]

theorem length_of_mem_rows {row : List Cell} (hrow : row ∈ b.rows o) :
    row.length = (b.metricColumns o).length := by
  obtain ⟨e, _, rfl⟩ := List.mem_map.1 hrow
  exact List.length_map _

theorem length_of_mem_tagRows {row : List Cell} (hrow : row ∈ b.tagRows o) :
    row.length = (b.tagTableColumns o).length := by
  obtain ⟨e, _, rfl⟩ := List.mem_map.1 hrow
  simp [tagTableColumns]

/-- The tag rows name the keys of the tag sets, in their order. -/
theorem head?_tagRows (o : Options) (b : TableBatch) :
    (b.tagRows o).map List.head? = b.keptTagSets.keys.map fun id => some (.int id) := by
  rw [tagRows, KeyMap.keys, List.map_map, List.map_map]
  rfl

section Rows

variable (h : InStep o ms b)
include h

/-- The entries that are still to be written are those of the surviving records. -/
theorem InStep.heading_kept : b.kept.map Entry.heading = (survivors o b ms).map (heading o) := by
  have hentries : b.kept.map Entry.heading =
      (b.entries.map Entry.heading).filter fun k => b.isKept k.tagId := by
    rw [List.filter_map]
    rfl
  rw [hentries, h.entries, List.filter_map]
  rfl

/-- The tag sets that are still to be written are those of the surviving records. -/
theorem InStep.mem_keptTagSets {id : Int64} :
    id ∈ b.keptTagSets.keys ↔ ∃ m ∈ survivors o b ms, (m.keptTags o).id = id := by
  have hfilter : b.keptTagSets.contains id = (b.tagSets.contains id && b.isKept id) :=
    KeyMap.contains_filter b.tagSets b.isKept id
  rw [KeyMap.mem_keys, hfilter, KeyMap.contains, h.tagSet]
  simp only [Bool.and_eq_true, List.find?_isSome, List.mem_map, survivors, List.mem_filter,
    beq_iff_eq]
  constructor
  · rintro ⟨⟨_, ⟨m, hm, rfl⟩, rfl⟩, hkept⟩
    exact ⟨m, ⟨hm, hkept⟩, rfl⟩
  · rintro ⟨m, ⟨hm, hkept⟩, rfl⟩
    exact ⟨⟨_, ⟨m, hm, rfl⟩, rfl⟩, hkept⟩

/-- Rows start with the times of the surviving records and the keys of their tag sets. -/
theorem InStep.take_rows (ho : o.HasRoles) (hkeys : o.tagsAsForeignKeys = true) :
    (b.rows o).map (List.take 2) = (survivors o b ms).map fun m =>
      [.timestamp m.timestamp, .int (m.keptTags o).id] := by
  have hheading : (b.rows o).map (List.take 2) =
      (b.kept.map Entry.heading).map fun k => [.timestamp k.timestamp, .int k.tagId] := by
    rw [rows_of_tagsAsForeignKeys ho hkeys, List.map_map, List.map_map]
    rfl
  rw [hheading, h.heading_kept, List.map_map]
  rfl

/-- The keys in the rows are those of the surviving records. -/
theorem InStep.exists_row_iff (ho : o.HasRoles) (hkeys : o.tagsAsForeignKeys = true) {id : Int64} :
    (∃ row ∈ b.rows o, row[1]? = some (.int id)) ↔
      ∃ m ∈ survivors o b ms, (m.keptTags o).id = id := by
  have htake : ∀ row : List Cell, row[1]? = (row.take 2)[1]? := fun row => by
    rw [List.getElem?_take_of_lt (by decide)]
  have hrows : (∃ row ∈ b.rows o, row[1]? = some (.int id)) ↔
      ∃ start ∈ (b.rows o).map (List.take 2), start[1]? = some (.int id) := by
    simp only [List.mem_map, exists_exists_and_eq_and, ← htake]
  rw [hrows, h.take_rows ho hkeys]
  simp

/-- If keys tell tag sets apart, the tag set of a record is the one under its key. -/
theorem InStep.find?_tagSets
    (hkeys : ∀ m ∈ ms, ∀ m' ∈ ms, (m.keptTags o).id = (m'.keptTags o).id →
      m.keptTags o = m'.keptTags o) {m : Metric} (hm : m ∈ ms) :
    b.tagSets.find? (m.keptTags o).id = some (m.keptTags o) := by
  rw [h.tagSet]
  cases hfind : (ms.map (Metric.keptTags o)).find? (·.id == (m.keptTags o).id) with
  | none =>
    have hnone := List.find?_eq_none.1 hfind _ (List.mem_map.2 ⟨m, hm, rfl⟩)
    simp at hnone
  | some tags =>
    obtain ⟨m', hm', rfl⟩ := List.mem_map.1 (List.mem_of_find?_eq_some hfind)
    have hid : (m'.keptTags o).id = (m.keptTags o).id := by simpa using List.find?_some hfind
    rw [hkeys m' hm' m hm hid]

/-- If keys tell tag sets apart, some tag row holds what a surviving record has for its columns,
and nothing else does. -/
theorem InStep.exists_tagRow (ho : o.HasRoles) (hb : b.Valid o)
    (hkeys : ∀ m ∈ ms, ∀ m' ∈ ms, (m.keptTags o).id = (m'.keptTags o).id →
      m.keptTags o = m'.keptTags o) {m : Metric} (hm : m ∈ survivors o b ms) :
    ∃ row ∈ b.tagRows o, ∀ cells,
      List.Forall₂ (m.InCell o) (b.tagTableColumns o) cells ↔ cells = row := by
  obtain ⟨hm, hkept⟩ := List.mem_filter.1 hm
  have hentry : ((m.keptTags o).id, m.keptTags o) ∈ b.keptTagSets.entries := by
    rw [← KeyMap.find?_eq_some_iff, keptTagSets, KeyMap.find?_filter, h.find?_tagSets hkeys hm]
    simp [Option.filter, hkept]
  refine ⟨_, List.mem_map.2 ⟨_, hentry, rfl⟩, fun cells => ?_⟩
  rw [tagTableColumns, List.forall₂_cons_left_iff]
  have htags : ∀ row, List.Forall₂ (m.InCell o) (b.tagPart o) row ↔
      row = (b.tagPart o).map fun c => tagCell o c (m.keptTags o) := fun row =>
    forall₂_iff_eq_map fun c hc x => Metric.inCell_tag_iff (role_of_mem_tagPart hb hc)
  constructor
  · rintro ⟨x, row, hx, hrow, rfl⟩
    rw [(Metric.inCell_tagId_iff ho.tagId).1 hx, (htags row).1 hrow]
  · rintro rfl
    exact ⟨_, _, (Metric.inCell_tagId_iff ho.tagId).2 rfl, (htags _).2 rfl, rfl⟩

/-- If keys tell tag sets apart, the tags of a surviving record have columns. -/
theorem InStep.mem_tagPart (hjson : o.tagsAsJson = false)
    (hkeys : ∀ m ∈ ms, ∀ m' ∈ ms, (m.keptTags o).id = (m'.keptTags o).id →
      m.keptTags o = m'.keptTags o) {m : Metric} (hm : m ∈ survivors o b ms) {k v : String}
    (hv : m.HasTag o k v) : ∃ c ∈ b.tagPart o, c.name = k := by
  obtain ⟨hm, hkept⟩ := List.mem_filter.1 hm
  have hk : (m.keptTags o).contains k = true := Metric.contains_keptTags_iff.2 ⟨v, hv⟩
  have hcolumn := h.tagColumn hjson _ _ (h.find?_tagSets hkeys hm) hkept k hk
  obtain ⟨c, hc, hname⟩ := List.any_eq_true.1 hcolumn
  exact ⟨c, by simpa [tagPart, hjson] using hc, by simpa using hname⟩

end Rows

/-- The tag table has a column for all tags, or columns for tags that no fixed column stands in the
way of. -/
theorem tagPart_cases (hb : b.Valid o) :
    (o.tagsAsJson = true → b.tagPart o = [⟨"tags", .tag, .jsonb⟩]) ∧
    (o.tagsAsJson = false → ∀ c ∈ b.tagPart o, c.role = .tag ∧ ¬ o.Reserves c.name) := by
  refine ⟨fun hjson => ?_, fun hjson c hc => ?_⟩
  · simp [tagPart, hjson, Options.tagsJsonColumn, tagsJsonName]
  · have hcolumn : c ∈ b.tagColumns.columns := by simpa [tagPart, hjson] using hc
    obtain ⟨hrole, _, hfree⟩ := hb.tags c hcolumn
    refine ⟨hrole, fun hreserved => ?_⟩
    cases hfree.symm.trans (Options.isReserved_iff.2 hreserved)

/-- After any actions, rows and tag rows name the same keys, every key has one tag row, and
tag rows are in the order of the keys. If keys tell tag sets apart, the tag row of a surviving
record has its key, and its tags that no fixed column stands in the way of: all of them, and no
others. -/
theorem rows_after (ho : o.HasRoles) (hkeys : o.tagsAsForeignKeys = true) (name : String)
    (actions : List Action) (hb : after o name actions = b) :
    (∃ ids : List Int64, ids.Pairwise (· < ·) ∧
      (b.tagRows o).map List.head? = ids.map (fun id => some (.int id)) ∧
      ∀ id, id ∈ ids ↔ ∃ row ∈ b.rows o, row[1]? = some (.int id)) ∧
    (b.rows o).map (List.take 2) = (survivors o b (pushed actions)).map (fun m =>
      [.timestamp m.timestamp, .int (m.keptTags o).id]) ∧
    b.recordCount = (b.rows o).length ∧
    (∀ row ∈ b.rows o, row.length = (b.metricColumns o).length) ∧
    (∀ row ∈ b.tagRows o, row.length = (b.tagTableColumns o).length) ∧
    (o.tagsAsJson = true → b.tagPart o = [⟨"tags", .tag, .jsonb⟩]) ∧
    (o.tagsAsJson = false → ∀ c ∈ b.tagPart o, c.role = .tag ∧ ¬ o.Reserves c.name) ∧
    ((∀ m ∈ pushed actions, ∀ m' ∈ pushed actions, (m.keptTags o).id = (m'.keptTags o).id →
        m.keptTags o = m'.keptTags o) →
      ∀ m ∈ survivors o b (pushed actions),
        (∃ row ∈ b.tagRows o, ∀ cells,
          List.Forall₂ (m.InCell o) (b.tagTableColumns o) cells ↔ cells = row) ∧
        (o.tagsAsJson = false → ∀ k v, m.HasTag o k v → ∃ c ∈ b.tagPart o, c.name = k)) := by
  obtain ⟨hstep, hbuilt⟩ := inStep_after o name actions
  rw [hb] at hstep hbuilt
  refine ⟨⟨b.keptTagSets.keys, b.keptTagSets.keys_increasing, head?_tagRows o b, fun id => ?_⟩,
    hstep.take_rows ho hkeys, (List.length_map _).symm, fun row => length_of_mem_rows,
    fun row => length_of_mem_tagRows, (tagPart_cases hbuilt.valid).1,
    (tagPart_cases hbuilt.valid).2, fun hapart m hm => ⟨?_, fun hjson k v hv => ?_⟩⟩
  · rw [hstep.mem_keptTagSets, hstep.exists_row_iff ho hkeys]
  · exact hstep.exists_tagRow ho hbuilt.valid hapart hm
  · exact hstep.mem_tagPart hjson hapart hm hv

/-- The default layout with tag tables. -/
def keyed : Options := { Options.plain with tagsAsForeignKeys := true }

def recordOf (tags : List (String × String)) : Metric :=
  { name := "cpu", tags := .ofList tags, fields := .empty, timestamp := default }

/-- A tag is given up between two records of one tag set, and comes again. -/
def givenUp : List Action :=
  [.push (recordOf [("host", "a")]), .push (recordOf [("host", "a"), ("rack", "r")]),
    .drop (.ofTag "rack"), .push (recordOf [("host", "a")]),
    .push (recordOf [("host", "a"), ("rack", "r")])]

theorem rows_after_givenUp : keyed.HasRoles ∧ keyed.tagsAsForeignKeys = true ∧
    ∃ b, after keyed "cpu" givenUp = b ∧ b.recordCount = 2 ∧ (b.rows keyed).length = 2 ∧
      ∀ m ∈ survivors keyed b (pushed givenUp),
        ∃ row ∈ b.tagRows keyed, ∀ cells,
          List.Forall₂ (m.InCell keyed) (b.tagTableColumns keyed) cells ↔ cells = row := by
  have ho : keyed.HasRoles := ⟨rfl, rfl⟩
  obtain ⟨_, _, hcount, _, _, _, _, htags⟩ := rows_after ho rfl "cpu" givenUp rfl
  have htwo : (after keyed "cpu" givenUp).recordCount = 2 := by decide +kernel
  exact ⟨ho, rfl, _, rfl, htwo, hcount.symm.trans htwo,
    fun m hm => (htags (by decide +kernel) m hm).1⟩

end TableBatch

end MetricTables
