import MetricTables.Proofs.Derivation
import MetricTables.Proofs.Store.Trace

/-!
# The order of records

Two batches of the same records in different orders are the same but for the order of
their columns and rows, as long as the records agree on the types of fields and keys tell tag
sets apart. Columns are asked for in table order, so a store cannot tell such batches apart: it is
called in the same way, and both batches lose the same.

## Main definitions

* `Unambiguous` — records whose order does not matter.
* `TableBatch.Reordered` — the same batch but for the order of columns and records.
* `TableBatch.namedRows` — rows as maps from the names of columns to values.

## Main statements

* `reordered_derived` — batches of the same records are reordered.
* `reordered_dropColumn` — giving up a column keeps batches reordered.
* `ensure_reordered`, `agree_matchBatch_reordered` — a store cannot tell reordered batches apart.
* `reordered_ofMetrics` — batches of one table, of the same records, are reordered.
* `matchBatch_perm` — the order of records does not matter.
-/

namespace MetricTables

/-- In lists of the same elements the first result is the same if all results are. -/
theorem findSome?_perm {α β : Type} {f : α → Option β} {l l' : List α} (h : l.Perm l')
    (hsame : ∀ a ∈ l, ∀ a' ∈ l, ∀ x x', f a = some x → f a' = some x' → x = x') :
    l.findSome? f = l'.findSome? f := by
  cases hfind : l.findSome? f with
  | none =>
    refine (List.findSome?_eq_none_iff.2 fun a ha => ?_).symm
    exact List.findSome?_eq_none_iff.1 hfind a (h.mem_iff.2 ha)
  | some x =>
    obtain ⟨a, ha, hx⟩ := List.exists_of_findSome?_eq_some hfind
    cases hfind' : l'.findSome? f with
    | none =>
      have hnone := List.findSome?_eq_none_iff.1 hfind' a (h.mem_iff.1 ha)
      cases hnone.symm.trans hx
    | some x' =>
      obtain ⟨a', ha', hx'⟩ := List.exists_of_findSome?_eq_some hfind'
      rw [hsame a ha a' (h.mem_iff.2 ha') x x' hx hx']

namespace ColumnList

variable {l l' : ColumnList}

/-- Lists that find the same columns have the same columns. -/
theorem perm_of_find? (hl : (l.columns.map Column.name).Nodup)
    (hl' : (l'.columns.map Column.name).Nodup) (h : ∀ k, l.find? k = l'.find? k) :
    l.columns.Perm l'.columns := by
  refine (List.perm_ext_iff_of_nodup hl.of_map hl'.of_map).2 fun c => ?_
  have hmem : ∀ {l : ColumnList}, (l.columns.map Column.name).Nodup →
      (c ∈ l.columns ↔ l.find? c.name = some c) := fun hl => by
    rw [find?_eq_some_iff hl, and_iff_left rfl]
  rw [hmem hl, hmem hl', h]

theorem find?_perm (h : l.columns.Perm l'.columns) (hl : (l.columns.map Column.name).Nodup)
    (k : String) : l.find? k = l'.find? k := by
  refine Option.ext fun c => ?_
  rw [find?_eq_some_iff hl, find?_eq_some_iff ((h.map _).nodup_iff.1 hl), h.mem_iff]

theorem erase_perm (h : l.columns.Perm l'.columns) (hl : (l.columns.map Column.name).Nodup)
    (k : String) : (l.erase k).columns.Perm (l'.erase k).columns := by
  refine List.Perm.eraseP _ ?_ h
  refine (List.pairwise_map.1 hl).imp fun {c d} hne hc hd => hne ?_
  rw [beq_iff_eq] at hc hd
  rw [hc, hd]

end ColumnList

namespace TableBatch

/-- Records of one table agree on the types of fields, and keys tell their tag sets apart. -/
structure Unambiguous (o : Options) (ms : List Metric) : Prop where
  types : ∀ m ∈ ms, ∀ m' ∈ ms, m.name = m'.name → ∀ k v v', m.fields.find? k = some v →
    m'.fields.find? k = some v' → v.resolve o.unsignedType = v'.resolve o.unsignedType
  keys : ∀ m ∈ ms, ∀ m' ∈ ms, m.name = m'.name → (m.keptTags o).id = (m'.keptTags o).id →
    m.keptTags o = m'.keptTags o

/-- The same batch but for the order of columns and records. -/
structure Reordered (b b' : TableBatch) : Prop where
  name : b.name = b'.name
  tagColumns : b.tagColumns.columns.Perm b'.tagColumns.columns
  fieldColumns : b.fieldColumns.columns.Perm b'.fieldColumns.columns
  entries : b.entries.Perm b'.entries
  tagSets : b.tagSets = b'.tagSets
  lostTagSets : b.lostTagSets = b'.lostTagSets
  dropped : b.dropped = b'.dropped

variable {o : Options} {b b' : TableBatch} {ms ms' : List Metric}

/-! ## Batches of the same records -/

theorem isTag_perm (h : ms.Perm ms') (k : String) : isTag ms k = isTag ms' k := h.any_eq

theorem fieldsAmong_perm (h : ms.Perm ms') (m : Metric) :
    fieldsAmong o ms m = fieldsAmong o ms' m := by
  unfold fieldsAmong
  simp only [isTag_perm h]

/-- The records of one table make one batch, but for the order. -/
theorem reordered_derived (h : ms.Perm ms') (hname : b.name = b'.name)
    (htypes : ∀ m ∈ ms, ∀ m' ∈ ms, ∀ k v v', m.fields.find? k = some v →
      m'.fields.find? k = some v' → v.resolve o.unsignedType = v'.resolve o.unsignedType)
    (hkeys : ∀ m ∈ ms, ∀ m' ∈ ms, (m.keptTags o).id = (m'.keptTags o).id →
      m.keptTags o = m'.keptTags o)
    (hd : Derived o ms b) (hd' : Derived o ms' b') (hb : b.Valid o) (hb' : b'.Valid o) :
    Reordered b b' where
  name := hname
  tagColumns := by
    refine ColumnList.perm_of_find? hb.tagNames hb'.tagNames fun k => ?_
    rw [hd.tagColumn, hd'.tagColumn, isTag_perm h]
  fieldColumns := by
    refine ColumnList.perm_of_find? hb.fieldNames hb'.fieldNames fun k => ?_
    rw [hd.fieldColumn, hd'.fieldColumn]
    congr 1
    simp only [firstField, List.map_findSome?, fieldsAmong_perm h]
    refine findSome?_perm h fun m hm m' hm' c c' hc hc' => ?_
    obtain ⟨v, hv, rfl⟩ := Option.map_eq_some_iff.1 hc
    obtain ⟨v', hv', rfl⟩ := Option.map_eq_some_iff.1 hc'
    have hfield : ∀ {m v}, (fieldsAmong o ms' m).find? k = some v → m.fields.find? k = some v :=
      fun hv => (Metric.find?_ownFields_eq_some.1 (find?_fieldsAmong_eq_some.1 hv).1).1
    simp only [fieldColumn, htypes m hm m' hm' k v v' (hfield hv) (hfield hv')]
  entries := by
    rw [hd.entries, hd'.entries]
    have hentry : entryAmong o ms = entryAmong o ms' := by
      funext m
      simp only [entryAmong, fieldsAmong_perm h]
    rw [hentry]
    exact h.map _
  tagSets := by
    refine KeyMap.ext_find? fun id => ?_
    rw [hd.tagSet, hd'.tagSet, List.find?_eq_findSome?_guard, List.find?_eq_findSome?_guard]
    refine findSome?_perm (h.map _) fun tags htags tags' htags' x x' hx hx' => ?_
    obtain ⟨m, hm, rfl⟩ := List.mem_map.1 htags
    obtain ⟨m', hm', rfl⟩ := List.mem_map.1 htags'
    obtain ⟨rfl, hid⟩ := Option.guard_eq_some_iff.1 hx
    obtain ⟨rfl, hid'⟩ := Option.guard_eq_some_iff.1 hx'
    rw [beq_iff_eq] at hid hid'
    exact hkeys m hm m' hm' (hid.trans hid'.symm)
  lostTagSets := hd.lostTagSets.trans hd'.lostTagSets.symm
  dropped := hd.dropped.trans hd'.dropped.symm

/-! ## Giving up columns -/

/-- Reordered batches lose the same. -/
theorem reordered_dropColumn (h : Reordered b b') (hb : b.Valid o) (c : Column) :
    (∃ e, b.dropColumn o c = .error e ∧ b'.dropColumn o c = .error e) ∨
      ∃ b₁ b₁', b.dropColumn o c = .ok b₁ ∧ b'.dropColumn o c = .ok b₁' ∧ Reordered b₁ b₁' := by
  unfold dropColumn
  split
  · exact .inl ⟨_, rfl, rfl⟩
  · refine .inr ?_
    split
    · refine ⟨_, _, rfl, rfl, ?_⟩
      have hfind := ColumnList.find?_perm h.tagColumns hb.tagNames c.name
      unfold dropTag
      rw [← hfind]
      split
      · exact h
      · exact ⟨h.name, ColumnList.erase_perm h.tagColumns hb.tagNames _, h.fieldColumns, h.entries,
          h.tagSets, by rw [h.lostTagSets, h.tagSets], by rw [h.dropped]⟩
    · refine ⟨_, _, rfl, rfl, ?_⟩
      have hfind := ColumnList.find?_perm h.fieldColumns hb.fieldNames c.name
      unfold dropField
      rw [← hfind]
      split
      · exact h
      · exact ⟨h.name, h.tagColumns, ColumnList.erase_perm h.fieldColumns hb.fieldNames _,
          h.entries, h.tagSets, h.lostTagSets, by rw [h.dropped]⟩

/-! ## Columns that are asked for -/

theorem Reordered.tagPart (h : Reordered b b') : (b.tagPart o).Perm (b'.tagPart o) := by
  unfold TableBatch.tagPart
  split
  · exact .refl _
  · exact h.tagColumns

theorem Reordered.fieldPart (h : Reordered b b') : (b.fieldPart o).Perm (b'.fieldPart o) := by
  unfold TableBatch.fieldPart
  split
  · exact .refl _
  · exact h.fieldColumns

theorem Reordered.metricColumns (h : Reordered b b') :
    (b.metricColumns o).Perm (b'.metricColumns o) := by
  refine .cons _ (.append ?_ h.fieldPart)
  split
  · exact .refl _
  · exact h.tagPart

/-- Role and name tell the columns of a batch apart, whatever the layout is. -/
theorem eq_of_role_of_name (ho : o.HasRoles) (hb : b.Valid o) {c d : Column}
    (hc : c ∈ b.metricColumns o ∨ c ∈ b.tagTableColumns o)
    (hd : d ∈ b.metricColumns o ∨ d ∈ b.tagTableColumns o) (hrole : c.role = d.role)
    (hname : c.name = d.name) : c = d := by
  -- columns of one role are in one part, and names tell apart what is in a part
  rcases place_of_mem ho hb hc with ⟨hr, rfl⟩ | ⟨hr, rfl⟩ | ⟨hr, hc⟩ | ⟨hr, hc⟩ <;>
    rcases place_of_mem ho hb hd with ⟨hr', rfl⟩ | ⟨hr', rfl⟩ | ⟨hr', hd⟩ | ⟨hr', hd⟩ <;>
    first
    | rfl
    | exact List.inj_on_of_nodup_map (nodup_tagPart hb) hc hd hname
    | exact List.inj_on_of_nodup_map (nodup_fieldPart hb) hc hd hname
    | cases hr.symm.trans (hrole.trans hr')

end TableBatch

/-! ## Stores cannot tell -/

open TableBatch Matching

variable {σ : Type} [Store σ] {o : Options}

section Request

variable (r : Request) (required : List Column)

/-- The steps of a request do not look at what is required as a whole. -/
theorem Request.addColumns_required (cs : List Column) :
    ({ r with required }.addColumns o cs : Reconciliation σ (List Column)) = r.addColumns o cs := by
  induction cs with
  | nil => rfl
  | cons c cs ih =>
    rw [Request.addColumns, ih]
    rfl

theorem Request.extend_required (g : Gap) :
    ({ r with required }.extend o g : Reconciliation σ (List Column)) = r.extend o g := by
  unfold Request.extend
  rw [Request.addColumns_required]

theorem Request.change_required (cs : List Column) :
    ({ r with required }.change o cs : Reconciliation σ (List Column)) = r.change o cs := by
  unfold Request.change Request.create
  simp only [Request.extend_required]
  rfl

/-- Only the table order of what is required counts. -/
theorem Request.ensure_congr (h : Column.sort r.required = Column.sort required) :
    (r.ensure o : Reconciliation σ (List Column)) = { r with required }.ensure o := by
  unfold Request.ensure
  rw [h]
  simp only [Request.change_required]
  rfl

end Request

namespace Matching

/-- The same manager, and batches that are the same but for the order. -/
structure Twins (o : Options) (w v : Work σ) : Prop where
  manager : w.manager = v.manager
  batch : Reordered w.batch v.batch
  valid : w.batch.Valid o
  valid' : v.batch.Valid o

omit [Store σ] in
theorem agree_dropColumn_reordered (c : Column) :
    Agree (Twins o) (dropColumn o c : Matching σ PUnit) (dropColumn o c) := by
  intro w v h
  rw [run_dropColumn, run_dropColumn]
  rcases reordered_dropColumn h.batch h.valid c with ⟨e, he, he'⟩ | ⟨b, b', hb, hb', hbatch⟩
  · rw [he, he']
    exact ⟨rfl, h⟩
  · rw [hb, hb']
    exact ⟨rfl, h.manager, hbatch, valid_dropColumn h.valid hb, valid_dropColumn h.valid' hb'⟩

/-- A request that asks reordered batches for the same, but for the order. -/
def AsksAlike (o : Options) (request : TableBatch → Request) : Prop :=
  ∀ b b' : TableBatch, Reordered b b' → b.Valid o →
    Column.sort (request b).required = Column.sort (request b').required ∧
      request b' = { request b with required := (request b').required }

/-- A store cannot tell requests of reordered batches apart. -/
theorem ensure_reordered {request : TableBatch → Request} (hrequest : AsksAlike o request)
    {b b' : TableBatch} (h : Reordered b b') (hb : b.Valid o) (m : Manager σ) :
    m.ensure o (request b) = m.ensure o (request b') := by
  obtain ⟨hsort, hsame⟩ := hrequest b b' h hb
  rw [hsame]
  unfold Manager.ensure
  rw [Request.ensure_congr _ _ hsort]

/-- A request sees the columns of a batch sorted, so their order does not reach the store. -/
theorem agree_matchTable_reordered {request : TableBatch → Request}
    (hrequest : AsksAlike o request) :
    Agree (Twins o) (matchTable o request : Matching σ (List Column)) (matchTable o request) := by
  intro w v h
  have hensure : Agree (Twins o) (ensure o (request w.batch) : Matching σ (List Column))
      (ensure o (request v.batch)) := by
    intro w' v' h'
    have heq : w'.manager.ensure o (request w.batch) = v'.manager.ensure o (request v.batch) := by
      rw [ensure_reordered hrequest h.batch h.valid, h'.manager]
    have hanswer := congrArg Prod.fst heq
    have hmanager := congrArg Prod.snd heq
    exact ⟨hanswer, hmanager, h'.batch, h'.valid, h'.valid'⟩
  rw [matchTable_eq, matchTable_eq]
  exact (hensure.bind fun missing =>
    (Agree.forM fun c _ => agree_dropColumn_reordered c).bind fun _ => .pure missing) w v h

theorem asksAlike_metricRequest (ho : o.HasRoles) : AsksAlike o (metricRequest o) := by
  intro b b' h hb
  refine ⟨Column.sort_congr_of_apart h.metricColumns fun c hc d hd => ?_, ?_⟩
  · exact eq_of_role_of_name ho hb (.inl hc) (.inl hd)
  · simp only [metricRequest, tagTable?, h.name]

theorem asksAlike_tagRequest (ho : o.HasRoles) (tagTable : String) :
    AsksAlike o fun b => tagRequest o b tagTable := by
  intro b b' h hb
  refine ⟨Column.sort_congr_of_apart (h.tagPart.cons _) fun c hc d hd => ?_, ?_⟩
  · exact eq_of_role_of_name ho hb (.inr hc) (.inr hd)
  · simp only [tagRequest, h.name]

/-- A store cannot tell reordered batches apart while they are matched. -/
theorem agree_matchBatch_reordered (ho : o.HasRoles) :
    Agree (Twins o) (matchBatch o : Matching σ Outcome) (matchBatch o) := by
  intro w v h
  have htags : Agree (Twins o) (matchTagTable o w.batch : Matching σ (List Column))
      (matchTagTable o v.batch) := by
    have htable : tagTable? o w.batch = tagTable? o v.batch := by
      rw [tagTable?, tagTable?, h.batch.name]
    unfold matchTagTable
    rw [htable]
    cases tagTable? o v.batch with
    | none => exact .pure []
    | some tagTable => exact agree_matchTable_reordered (asksAlike_tagRequest ho tagTable)
  rw [run_matchBatch, run_matchBatch]
  exact (htags.bind fun _ => (agree_matchTable_reordered (asksAlike_metricRequest ho)).bind fun _ =>
    .pure _) w v h

end Matching

/-! ## Rows by name -/

namespace TableBatch

variable {b b' : TableBatch}

/-- The rows of the metric table as maps from the names of its columns to values. -/
def namedRows (o : Options) (b : TableBatch) : List (KeyMap String Cell) :=
  (b.rows o).map fun row => .ofList ((b.columnNames o).zip row)

theorem namedRows_eq (b : TableBatch) : b.namedRows o = b.kept.map fun e =>
    .ofList ((b.metricColumns o).map fun c => (c.name, cell o c e)) := by
  rw [namedRows, rows, List.map_map]
  refine List.map_congr_left fun e _ => ?_
  rw [Function.comp, columnNames, List.zip_map']

/-- Reordered batches have the same value for each column of a record. -/
theorem ofList_metricColumns (h : Reordered b b') (hb : b.Valid o) (f : Column → Cell) :
    KeyMap.ofList ((b.metricColumns o).map fun c => (c.name, f c)) =
      KeyMap.ofList ((b'.metricColumns o).map fun c => (c.name, f c)) := by
  have hpart : ∀ {cs cs' : List Column}, cs.Perm cs' → (cs.map Column.name).Nodup →
      ∀ m : KeyMap String Cell,
        (cs.map fun c => (c.name, f c)).foldl (fun m e => m.insert e.1 e.2) m =
          (cs'.map fun c => (c.name, f c)).foldl (fun m e => m.insert e.1 e.2) m := by
    intro cs cs' hcs hnames m
    refine KeyMap.foldl_insert_perm (hcs.map _) ?_ m
    rw [List.map_map]
    exact hnames
  unfold KeyMap.ofList metricColumns
  simp only [List.map_cons, List.map_append, List.foldl_cons, List.foldl_append]
  rw [hpart h.fieldPart (nodup_fieldPart hb)]
  split
  · rfl
  · rw [hpart h.tagPart (nodup_tagPart hb)]

/-- Reordered batches have the same rows, but for the order. -/
theorem namedRows_reordered (h : Reordered b b') (hb : b.Valid o) :
    (b.namedRows o).Perm (b'.namedRows o) := by
  have hkept : b.kept.Perm b'.kept := by
    unfold kept isKept
    rw [h.lostTagSets]
    exact h.entries.filter _
  rw [namedRows_eq, namedRows_eq]
  simp only [ofList_metricColumns h hb]
  exact hkept.map _

/-- Batches of one table are reordered if the records of the whole batch are. -/
theorem reordered_ofMetrics {ms ms' : List Metric} (h : ms.Perm ms') (hms : Unambiguous o ms)
    {table : String} (hb : (ofMetrics o ms).find? table = some b)
    (hb' : (ofMetrics o ms').find? table = some b') :
    Reordered b b' ∧ b.Valid o ∧ b'.Valid o := by
  rw [find?_ofMetrics] at hb hb'
  obtain ⟨_, hb⟩ := Option.ite_none_left_eq_some.1 hb
  obtain ⟨_, hb'⟩ := Option.ite_none_left_eq_some.1 hb'
  obtain ⟨hderived, hvalid, hname⟩ := derived_foldl o table (ms.filter (·.name == table))
  obtain ⟨hderived', hvalid', hname'⟩ := derived_foldl o table (ms'.filter (·.name == table))
  rw [Option.some.inj hb] at hderived hvalid hname
  rw [Option.some.inj hb'] at hderived' hvalid' hname'
  have hone : ∀ m ∈ ms.filter (·.name == table), ∀ m' ∈ ms.filter (·.name == table),
      m ∈ ms ∧ m' ∈ ms ∧ m.name = m'.name := by
    intro m hm m' hm'
    simp only [List.mem_filter, beq_iff_eq] at hm hm'
    exact ⟨hm.1, hm'.1, hm.2.trans hm'.2.symm⟩
  refine ⟨reordered_derived (h.filter _) (hname.trans hname'.symm) (fun m hm m' hm' => ?_)
    (fun m hm m' hm' => ?_) hderived hderived' hvalid hvalid', hvalid, hvalid'⟩
  · obtain ⟨hm, hm', hsame⟩ := hone m hm m' hm'
    exact hms.types m hm m' hm' hsame
  · obtain ⟨hm, hm', hsame⟩ := hone m hm m' hm'
    exact hms.keys m hm m' hm' hsame

end TableBatch

/-- The order of records does not matter. The store gets the same calls in the same order, with
the same effects, and gives the same result; and the batches end with the same columns, the
same losses and the same rows, but for their order. -/
theorem matchBatch_perm (ho : o.HasRoles) {ms ms' : List Metric} (h : ms.Perm ms')
    (hms : Unambiguous o ms) (table : String) :
    ((ofMetrics o ms).contains table = (ofMetrics o ms').contains table) ∧
    ∀ b b', (ofMetrics o ms).find? table = some b → (ofMetrics o ms').find? table = some b' →
      ∀ m : Manager (Traced σ), ∀ answer w answer' w',
        matchBatch o { manager := m, batch := b } = (answer, w) →
        matchBatch o { manager := m, batch := b' } = (answer', w') →
        w.manager.store.calls = w'.manager.store.calls ∧ answer = answer' ∧
        w.manager = w'.manager ∧
        w.batch.tagColumns.columns.Perm w'.batch.tagColumns.columns ∧
        w.batch.fieldColumns.columns.Perm w'.batch.fieldColumns.columns ∧
        w.batch.dropped = w'.batch.dropped ∧
        (w.batch.namedRows o).Perm (w'.batch.namedRows o) := by
  refine ⟨?_, fun b b' hb hb' m answer w answer' w' hrun hrun' => ?_⟩
  · have hown := h.filter (·.name == table)
    rw [KeyMap.contains, KeyMap.contains, find?_ofMetrics, find?_ofMetrics]
    have hnil : ms.filter (·.name == table) = [] ↔ ms'.filter (·.name == table) = [] :=
      ⟨fun hnil => (hnil ▸ hown).nil_eq.symm, fun hnil => (hnil ▸ hown).eq_nil⟩
    simp only [hnil]
    split <;> rfl
  · obtain ⟨hbatch, hvalid, hvalid'⟩ := reordered_ofMetrics h hms hb hb'
    obtain ⟨hanswer, htwins⟩ := agree_matchBatch_reordered (σ := Traced σ) ho
      { manager := m, batch := b } { manager := m, batch := b' } ⟨rfl, hbatch, hvalid, hvalid'⟩
    rw [hrun, hrun'] at hanswer htwins
    exact ⟨by rw [htwins.manager], hanswer, htwins.manager, htwins.batch.tagColumns,
      htwins.batch.fieldColumns, htwins.batch.dropped,
      namedRows_reordered htwins.batch htwins.valid⟩

/-- Fields of whole numbers agree on their types. -/
theorem unambiguous_takenOver : Unambiguous .plain takenOver where
  types := by
    have hint : ∀ m ∈ takenOver, ∀ k v, m.fields.find? k = some v →
        v.resolve Options.plain.unsignedType = .bigInt := by
      intro m hm k v hv
      have hentry := KeyMap.find?_eq_some_iff.1 hv
      simp only [takenOver, List.mem_cons, List.not_mem_nil, or_false] at hm
      rcases hm with rfl | rfl | rfl <;> cases List.mem_singleton.1 hentry <;> rfl
    intro m hm m' hm' _ k v v' hv hv'
    rw [hint m hm k v hv, hint m' hm' k v' hv']
  keys := by decide +kernel

theorem matchBatch_perm_takenOver : Options.plain.HasRoles ∧ takenOver.Perm takenOver.reverse ∧
    Unambiguous .plain takenOver ∧ ∃ b b', (ofMetrics .plain takenOver).find? "cpu" = some b ∧
      (ofMetrics .plain takenOver.reverse).find? "cpu" = some b' ∧
      ∀ m : Manager (Traced MemoryStore),
        (matchBatch .plain { manager := m, batch := b }).1 =
          (matchBatch .plain { manager := m, batch := b' }).1 ∧
        (matchBatch .plain { manager := m, batch := b }).2.manager.store.calls =
          (matchBatch .plain { manager := m, batch := b' }).2.manager.store.calls := by
  have ho := Options.hasFixedColumns_plain.hasRoles
  have hperm : takenOver.Perm takenOver.reverse := (List.reverse_perm _).symm
  refine ⟨ho, hperm, unambiguous_takenOver, _, _, find?_ofMetrics .plain takenOver "cpu",
    find?_ofMetrics .plain takenOver.reverse "cpu", fun m => ?_⟩
  obtain ⟨hcalls, hanswer, _⟩ := (matchBatch_perm ho hperm unambiguous_takenOver "cpu").2 _ _
    (find?_ofMetrics .plain takenOver "cpu") (find?_ofMetrics .plain takenOver.reverse "cpu") m
    _ _ _ _ rfl rfl
  exact ⟨hanswer, hcalls⟩

end MetricTables
