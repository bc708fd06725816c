import MetricTables.Proofs.Contents

/-!
# Batches in closed form

Records are added to a batch one after the other, and a later tag takes the place of a field
of its name. What the batch holds in the end is said here of all its records at once: which
columns there are, and what each record has for them.

## Main definitions

* `TableBatch.fieldsAmong`, `TableBatch.entryAmong` — what is kept of a record among others.
* `TableBatch.Derived` — the batch of some records in closed form.

## Main statements

* `widened_widen` — what making room for a record changes.
* `derived_push`, `derived_foldl` — a batch of records has the closed form.
* `ofMetrics_exact` — the columns and the rows of a batch of records.
-/

namespace MetricTables

/-! ## Records -/

def Entry.without (e : Entry) (p : String → Bool) : Entry :=
  { e with metric := { e.metric with fields := e.metric.fields.filter fun k _ => !p k } }

theorem Entry.without_without (e : Entry) (p q : String → Bool) :
    (e.without p).without q = e.without fun k => p k || q k := by
  have hfields : (e.metric.fields.filter fun k _ => !p k).filter (fun k _ => !q k) =
      e.metric.fields.filter fun k _ => !(p k || q k) := by
    rw [KeyMap.filter_filter]
    exact KeyMap.filter_congr fun k _ _ => by cases p k <;> cases q k <;> rfl
  simp only [without, hfields]

/-- What is taken away where nothing is does not matter. -/
theorem Entry.without_congr {e : Entry} {p q : String → Bool}
    (h : ∀ k v, e.metric.fields.find? k = some v → p k = q k) : e.without p = e.without q := by
  have hfields : e.metric.fields.filter (fun k _ => !p k) =
      e.metric.fields.filter fun k _ => !q k :=
    KeyMap.filter_congr fun k v hk => congrArg not (h k v hk)
  simp only [without, hfields]

theorem Entry.without_none (e : Entry) : e.without (fun _ => false) = e := by
  have hfields : e.metric.fields.filter (fun _ _ => !false) = e.metric.fields :=
    KeyMap.ext_entries (List.filter_eq_self.2 fun _ _ => rfl)
  simp only [without, hfields]

namespace TableBatch

variable {o : Options} {b b' : TableBatch} {ms : List Metric} {m : Metric} {k : String}

/-! ## Making room -/

/-- Tags and fields share names only if each has a column of its own. -/
theorem not_json_of_sharesNames (h : o.sharesNames = true) :
    o.tagsAsJson = false ∧ o.fieldsAsJson = false := by
  simpa [Options.sharesNames] using h

def fieldColumn (o : Options) (name : String) (v : FieldValue) : Column :=
  ⟨name, .field, v.resolve o.unsignedType⟩

/-- What making room for tags changes: fields that share names with them give way. -/
structure Admits (o : Options) (names : List String) (b b' : TableBatch) : Prop where
  entries : b'.entries = b.entries.map fun e =>
    e.without fun k => o.sharesNames && names.contains k && b.fieldColumns.contains k
  tagColumn : ∀ k, b'.tagColumns.find? k =
    (b.tagColumns.find? k).or (if k ∈ names then some (.ofTag k) else none)
  fieldColumn : ∀ k, b'.fieldColumns.find? k =
    if o.sharesNames ∧ k ∈ names then none else b.fieldColumns.find? k
  others : { b with
    entries := b'.entries, tagColumns := b'.tagColumns, fieldColumns := b'.fieldColumns } = b'

theorem withoutField_entries (b : TableBatch) (name : String) :
    (b.withoutField name).entries = b.entries.map fun e => e.without (· == name) := by
  refine List.map_congr_left fun e _ => ?_
  rw [KeyMap.erase_eq_filter]
  have hfields : e.metric.fields.filter (fun k _ => decide (k ≠ name)) =
      e.metric.fields.filter fun k _ => !(k == name) :=
    KeyMap.filter_congr fun k _ _ => by by_cases h : k = name <;> simp [h]
  simp only [hfields, Entry.without]

theorem admits_nil (b : TableBatch) : Admits o [] b b where
  entries := by simp [Entry.without_none]
  tagColumn k := by simp
  fieldColumn k := by simp
  others := rfl

theorem find?_pushTag (l : ColumnList) (name k : String) : (l.push (.ofTag name)).find? k =
    (l.find? k).or (if k ∈ [name] then some (.ofTag k) else none) := by
  rw [ColumnList.find?_push]
  by_cases hk : name = k
  · subst hk
    simp [Column.ofTag]
  · simp [Column.ofTag, hk, Ne.symm hk]

/-- A new tag takes its name from the fields where both share a table, in all records so far. -/
theorem admits_addTagColumn (hb : (b.fieldColumns.columns.map Column.name).Nodup) (name : String) :
    Admits o [name] b (b.addTagColumn o name) := by
  have htag := find?_pushTag b.tagColumns name
  by_cases hgives : (o.sharesNames && b.fieldColumns.contains name) = true
  · rw [addTagColumn, if_pos hgives]
    simp only [Bool.and_eq_true] at hgives
    refine ⟨?_, htag, fun k => ?_, rfl⟩
    · rw [withoutField_entries]
      refine List.map_congr_left fun e _ => Entry.without_congr fun k _ _ => ?_
      by_cases hk : k = name
      · simp [hk, hgives]
      · simp [hk]
    · show (b.fieldColumns.erase name).find? k = _
      rw [ColumnList.find?_erase hb]
      by_cases hk : k = name <;> simp [hk, hgives]
  · rw [addTagColumn, if_neg hgives]
    simp only [Bool.and_eq_true, not_and, Bool.not_eq_true] at hgives
    refine ⟨?_, htag, fun k => ?_, rfl⟩
    · refine (List.map_id _).symm.trans (List.map_congr_left fun e _ => ?_)
      rw [id, ← Entry.without_none e, Entry.without_without]
      refine Entry.without_congr fun k _ _ => ?_
      by_cases hk : k = name
      · cases hs : o.sharesNames
        · simp
        · simp [hk, hgives hs]
      · simp [hk]
    · show b.fieldColumns.find? k = _
      split
      next h =>
        obtain rfl : k = name := by simpa using h.2
        have hnone := hgives h.1
        rw [ColumnList.contains_eq_isSome] at hnone
        simpa using hnone
      · rfl

theorem Admits.cons {name : String} {names : List String} {b₁ : TableBatch}
    (h : Admits o [name] b b₁) (h' : Admits o names b₁ b') : Admits o (name :: names) b b' where
  entries := by
    rw [h'.entries, h.entries, List.map_map]
    refine List.map_congr_left fun e _ => ?_
    rw [Function.comp, Entry.without_without]
    refine Entry.without_congr fun k _ _ => ?_
    simp only [ColumnList.contains_eq_isSome, h.fieldColumn, List.mem_singleton]
    by_cases hk : k = name
    · cases o.sharesNames <;> simp [hk]
    · simp [hk]
  tagColumn k := by
    rw [h'.tagColumn, h.tagColumn, Option.or_assoc]
    by_cases hk : k = name <;> by_cases hks : k ∈ names <;> simp [hk, hks]
  fieldColumn k := by
    rw [h'.fieldColumn, h.fieldColumn]
    by_cases hs : o.sharesNames = true <;> by_cases hk : k = name <;> by_cases hks : k ∈ names <;>
      simp [hs, hk, hks]
  others := by
    rw [← h'.others, ← h.others]

/-- Tags are given room one after the other. -/
theorem admits_addTagColumns (hb : (b.fieldColumns.columns.map Column.name).Nodup)
    (names : List String) : Admits o names b (names.foldl (addTagColumn o) b) := by
  induction names generalizing b with
  | nil => exact admits_nil b
  | cons name names ih =>
    refine (admits_addTagColumn hb name).cons (ih ?_)
    unfold addTagColumn
    dsimp only
    split
    · exact ColumnList.nodup_erase hb
    · exact hb

theorem addFieldColumns_eq (entries : List (String × FieldValue)) (b : TableBatch) :
    entries.foldl (fun b e => b.addFieldColumn o e.1 e.2) b =
      { b with fieldColumns :=
        entries.foldl (fun l e => l.push (fieldColumn o e.1 e.2)) b.fieldColumns } := by
  induction entries generalizing b with
  | nil => rfl
  | cons e es ih =>
    rw [List.foldl_cons, List.foldl_cons, ih]
    rfl

/-- The first column of a name stays, also if many are pushed. -/
theorem find?_pushFields (entries : List (String × FieldValue)) (l : ColumnList) (k : String) :
    (entries.foldl (fun l e => l.push (fieldColumn o e.1 e.2)) l).find? k =
      (l.find? k).or ((KeyMap.lookup k entries).map (fieldColumn o k)) := by
  induction entries generalizing l with
  | nil => simp [KeyMap.lookup]
  | cons e es ih =>
    obtain ⟨name, v⟩ := e
    rw [List.foldl_cons, ih, ColumnList.find?_push, Option.or_assoc, KeyMap.lookup_cons]
    by_cases hk : name = k
    · simp [fieldColumn, hk]
    · simp [fieldColumn, hk]

/-- What making room for a record changes. -/
structure Widened (o : Options) (tags : Tags) (fields : Fields) (b b' : TableBatch) : Prop where
  entries : b'.entries = b.entries.map fun e =>
    e.without fun k => o.sharesNames && tags.contains k && b.fieldColumns.contains k
  tagColumn : ∀ k, b'.tagColumns.find? k = (b.tagColumns.find? k).or
    (if o.tagsAsJson = false ∧ tags.contains k = true then some (.ofTag k) else none)
  fieldColumn : ∀ k, b'.fieldColumns.find? k =
    (if o.sharesNames = true ∧ tags.contains k = true then none else b.fieldColumns.find? k).or
      (if o.fieldsAsJson then none else (fields.find? k).map (fieldColumn o k))
  others : { b with
    entries := b'.entries, tagColumns := b'.tagColumns, fieldColumns := b'.fieldColumns } = b'

/-- What one record does to the columns: its tags come first, its fields get what names are left. -/
theorem widened_widen (hb : (b.fieldColumns.columns.map Column.name).Nodup) (tags : Tags)
    (fields : Fields) : Widened o tags fields b (b.widen o tags fields) := by
  have htags : Admits o (if o.tagsAsJson then [] else tags.keys) b
      (if o.tagsAsJson then b else tags.keys.foldl (addTagColumn o) b) := by
    split
    · exact admits_nil b
    · exact admits_addTagColumns hb tags.keys
  have hmem : ∀ k, k ∈ (if o.tagsAsJson then [] else tags.keys) ↔
      o.tagsAsJson = false ∧ tags.contains k = true := by
    intro k
    cases o.tagsAsJson <;> simp [KeyMap.mem_keys]
  have hshared : o.sharesNames = true → o.tagsAsJson = false :=
    fun hs => (not_json_of_sharesNames hs).1
  unfold widen
  generalize (if o.tagsAsJson then b else tags.keys.foldl (addTagColumn o) b) = b₁ at htags ⊢
  obtain ⟨hentries, htag, hfield, hothers⟩ := htags
  have hcontains : ∀ k, (o.sharesNames && (if o.tagsAsJson then [] else tags.keys).contains k) =
      (o.sharesNames && tags.contains k) := by
    intro k
    rw [Bool.eq_iff_iff]
    simp only [Bool.and_eq_true, List.contains_iff_mem, hmem]
    exact ⟨fun h => ⟨h.1, h.2.2⟩, fun h => ⟨h.1, hshared h.1, h.2⟩⟩
  have hfield' : ∀ k, b₁.fieldColumns.find? k =
      if o.sharesNames = true ∧ tags.contains k = true then none else b.fieldColumns.find? k := by
    intro k
    rw [hfield]
    exact if_congr ⟨fun h => ⟨h.1, ((hmem k).1 h.2).2⟩,
      fun h => ⟨h.1, (hmem k).2 ⟨hshared h.1, h.2⟩⟩⟩ rfl rfl
  simp only [hcontains, hmem] at hentries htag
  dsimp only
  split
  next hjson => exact ⟨hentries, htag, fun k => by simp [hfield', hjson], hothers⟩
  next hjson =>
    rw [addFieldColumns_eq]
    refine ⟨hentries, htag, fun k => ?_, by rw [← hothers]⟩
    simp only [find?_pushFields, hfield', hjson]
    rfl

/-- Making room leaves the tag sets and all that was given up. -/
theorem Widened.others_eq {tags : Tags} {fields : Fields} (h : Widened o tags fields b b') :
    b'.name = b.name ∧ b'.tagSets = b.tagSets ∧ b'.lostTagSets = b.lostTagSets ∧
      b'.dropped = b.dropped := by
  rw [← h.others]
  exact ⟨rfl, rfl, rfl, rfl⟩

/-- A record is added with its tags and its fields once there is room for them. -/
theorem push_eq (b : TableBatch) (m : Metric) {fields : Fields}
    (h : b.acceptedFields o (m.keptTags o) m.fields = fields) :
    b.push o m = (let b₁ := b.widen o (m.keptTags o) fields
      { b₁ with
        entries := b₁.entries ++ [⟨(m.keptTags o).id, { m with tags := m.keptTags o, fields }⟩]
        tagSets := b₁.tagSets.insertNew (m.keptTags o).id (m.keptTags o) }) := by
  rw [← h]
  rfl

/-! ## Records among others -/

def isTag (ms : List Metric) (k : String) : Bool := ms.any fun m => m.tags.contains k

/-- The fields that a record keeps among others: if tags and fields share names, a tag of any
record takes the place of the field. -/
def fieldsAmong (o : Options) (ms : List Metric) (m : Metric) : Fields :=
  (m.ownFields o).filter fun k _ => !(o.sharesNames && isTag ms k)

/-- A record among others. -/
def entryAmong (o : Options) (ms : List Metric) (m : Metric) : Entry :=
  ⟨(m.keptTags o).id, { m with tags := m.keptTags o, fields := fieldsAmong o ms m }⟩

def firstField (o : Options) (ms : List Metric) (k : String) : Option FieldValue :=
  ms.findSome? fun m => (fieldsAmong o ms m).find? k

/-- The batch of some records in closed form. -/
structure Derived (o : Options) (ms : List Metric) (b : TableBatch) : Prop where
  entries : b.entries = ms.map (entryAmong o ms)
  tagColumn : ∀ k, b.tagColumns.find? k =
    if o.tagsAsJson = false ∧ o.isReserved k = false ∧ isTag ms k = true then some (.ofTag k)
    else none
  fieldColumn : ∀ k, b.fieldColumns.find? k =
    if o.fieldsAsJson then none else (firstField o ms k).map (fieldColumn o k)
  tagSet : ∀ id, b.tagSets.find? id = (ms.map (Metric.keptTags o)).find? (·.id == id)
  lostTagSets : b.lostTagSets = []
  dropped : b.dropped = []

theorem isTag_append (ms : List Metric) (m : Metric) (k : String) :
    isTag (ms ++ [m]) k = (isTag ms k || m.tags.contains k) := by
  simp [isTag]

/-- A later record takes from an earlier one the fields that have the names of its tags. -/
theorem fieldsAmong_append (ms : List Metric) (m m' : Metric) :
    fieldsAmong o (ms ++ [m]) m' =
      (fieldsAmong o ms m').filter fun k _ => !(o.sharesNames && m.tags.contains k) := by
  rw [fieldsAmong, fieldsAmong, KeyMap.filter_filter]
  refine KeyMap.filter_congr fun k _ _ => ?_
  rw [isTag_append]
  cases o.sharesNames <;> cases isTag ms k <;> cases m.tags.contains k <;> rfl

/-- Another record takes away the fields that its tags take the place of. -/
theorem entryAmong_append (ms : List Metric) (m m' : Metric) : entryAmong o (ms ++ [m]) m' =
    (entryAmong o ms m').without fun k => o.sharesNames && m.tags.contains k := by
  simp only [entryAmong, fieldsAmong_append, Entry.without]

theorem find?_fieldsAmong_eq_some {v : FieldValue} : (fieldsAmong o ms m).find? k = some v ↔
    (m.ownFields o).find? k = some v ∧ (o.sharesNames = true → isTag ms k = false) := by
  rw [fieldsAmong, KeyMap.find?_filter, Option.filter_eq_some_iff]
  refine and_congr_right fun _ => ?_
  cases o.sharesNames <;> simp

/-- No record keeps a field of a reserved name. -/
theorem firstField_of_isReserved (ms : List Metric) (hk : o.isReserved k = true) :
    firstField o ms k = none := by
  refine List.findSome?_eq_none_iff.2 fun m _ => ?_
  cases hv : (fieldsAmong o ms m).find? k with
  | none => rfl
  | some v =>
    obtain ⟨hown, _⟩ := find?_fieldsAmong_eq_some.1 hv
    obtain ⟨_, hfree, _⟩ := Metric.find?_ownFields_eq_some.1 hown
    cases hk.symm.trans hfree

/-- The first value of a field stays the first, unless a tag takes the name. -/
theorem firstField_append (ms : List Metric) (m : Metric) (k : String) :
    firstField o (ms ++ [m]) k =
      (if o.sharesNames = true ∧ m.tags.contains k = true then none else firstField o ms k).or
        ((fieldsAmong o (ms ++ [m]) m).find? k) := by
  have hfirst : ∀ m', (fieldsAmong o (ms ++ [m]) m').find? k =
      if o.sharesNames = true ∧ m.tags.contains k = true then none
      else (fieldsAmong o ms m').find? k := by
    intro m'
    rw [fieldsAmong_append, KeyMap.find?_filter]
    split
    next h => simp [h.1, h.2]
    next h =>
      have hkeeps : (!(o.sharesNames && m.tags.contains k)) = true := by
        simpa [-not_and, Classical.not_and_iff_not_or_not] using h
      cases (fieldsAmong o ms m').find? k <;> simp [hkeeps, -Bool.not_and]
  rw [firstField, List.findSome?_append]
  congr 1
  · split
    next h => simp [hfirst, h]
    next h => simp only [hfirst, if_neg h]; rfl
  · simp

/-- The first tag set of a key is kept, also if one more record comes. -/
theorem find?_insertNew_keptTags {sets : KeyMap Int64 Tags}
    (h : ∀ id, sets.find? id = (ms.map (Metric.keptTags o)).find? (·.id == id)) (m : Metric)
    (id : Int64) : (sets.insertNew (m.keptTags o).id (m.keptTags o)).find? id =
      ((ms ++ [m]).map (Metric.keptTags o)).find? (·.id == id) := by
  rw [KeyMap.find?_insertNew, h, List.map_append, List.find?_append]
  congr 1
  by_cases hid : id = (m.keptTags o).id
  · simp [hid]
  · simp [hid, Ne.symm hid]

section Push

variable (h : Derived o ms b)
include h

theorem Derived.contains_tagColumns (hjson : o.tagsAsJson = false) (hk : o.isReserved k = false) :
    b.tagColumns.contains k = isTag ms k := by
  rw [ColumnList.contains_eq_isSome, h.tagColumn]
  cases isTag ms k <;> simp [hjson, hk]

/-- A record brings what it keeps among all of them. -/
theorem Derived.acceptedFields_eq (m : Metric) :
    b.acceptedFields o (m.keptTags o) m.fields = fieldsAmong o (ms ++ [m]) m := by
  rw [acceptedFields, fieldsAmong, Metric.ownFields, KeyMap.filter_filter]
  refine KeyMap.filter_congr fun k _ _ => ?_
  rw [Metric.contains_keptTags, isTag_append]
  cases hk : o.isReserved k with
  | true => simp
  | false =>
    cases hs : o.sharesNames with
    | false => cases m.tags.contains k <;> rfl
    | true =>
      rw [h.contains_tagColumns (not_json_of_sharesNames hs).1 hk]
      cases m.tags.contains k <;> cases isTag ms k <;> rfl

/-- A field that a record keeps has a column. -/
theorem Derived.contains_fieldColumns (hjson : o.fieldsAsJson = false) (hm : m ∈ ms)
    {v : FieldValue} (hv : (fieldsAmong o ms m).find? k = some v) :
    b.fieldColumns.contains k = true := by
  rw [ColumnList.contains_eq_isSome, h.fieldColumn, hjson]
  have hfirst : (firstField o ms k).isSome = true := by
    rw [firstField, List.findSome?_isSome_iff]
    exact ⟨m, hm, by rw [hv]; rfl⟩
  simpa using hfirst

/-- What a record keeps among others changes with one more of them as making room for its tags
says. -/
theorem Derived.without_entryAmong {m m' : Metric} (hm' : m' ∈ ms) :
    ((entryAmong o ms m').without fun k =>
      o.sharesNames && (m.keptTags o).contains k && b.fieldColumns.contains k) =
        entryAmong o (ms ++ [m]) m' := by
  rw [entryAmong_append]
  refine Entry.without_congr fun k v hv => ?_
  obtain ⟨hown, _⟩ := find?_fieldsAmong_eq_some.1 hv
  obtain ⟨_, hk, _⟩ := Metric.find?_ownFields_eq_some.1 hown
  rw [Metric.contains_keptTags, hk]
  cases hs : o.sharesNames with
  | false => rfl
  | true => simp [h.contains_fieldColumns (not_json_of_sharesNames hs).2 hm' hv]

/-- A record keeps the closed form. -/
theorem derived_push (hb : b.Valid o) (m : Metric) : Derived o (ms ++ [m]) (b.push o m) := by
  have hwidened := widened_widen (o := o) hb.fieldNames (m.keptTags o) (fieldsAmong o (ms ++ [m]) m)
  obtain ⟨_, htagSets, hlost, hdropped⟩ := hwidened.others_eq
  rw [push_eq b m (h.acceptedFields_eq m)]
  refine ⟨?_, fun k => ?_, fun k => ?_, fun id => ?_, hlost.trans h.lostTagSets,
    hdropped.trans h.dropped⟩
  · simp only [hwidened.entries, h.entries, List.map_append, List.map_map, List.map_cons,
      List.map_nil]
    congr 1
    exact List.map_congr_left fun m' hm' => h.without_entryAmong hm'
  · simp only [hwidened.tagColumn, h.tagColumn, isTag_append, Metric.contains_keptTags]
    cases o.tagsAsJson <;> cases o.isReserved k <;> cases isTag ms k <;>
      cases m.tags.contains k <;> rfl
  · simp only [hwidened.fieldColumn, h.fieldColumn, firstField_append, Metric.contains_keptTags]
    cases hjson : o.fieldsAsJson with
    | true => simp
    | false =>
      cases hk : o.isReserved k with
      | true => simp [firstField_of_isReserved ms hk]
      | false =>
        by_cases hgives : o.sharesNames = true ∧ m.tags.contains k = true
        · simp [hgives]
        · simp [hgives, Option.map_or]
  · simp only [htagSets]
    exact find?_insertNew_keptTags h.tagSet m id

end Push

theorem derived_new (o : Options) (name : String) : Derived o [] { name } where
  entries := rfl
  tagColumn k := by simp [isTag, ColumnList.find?, ColumnList.empty]
  fieldColumn k := by simp [firstField, ColumnList.find?, ColumnList.empty]
  tagSet id := rfl
  lostTagSets := rfl
  dropped := rfl

theorem name_push (hb : b.Valid o) (m : Metric) : (b.push o m).name = b.name :=
  (widened_widen (o := o) hb.fieldNames _ _).others_eq.1

/-- A batch of records has the closed form. -/
theorem derived_foldl (o : Options) (name : String) (ms : List Metric) :
    Derived o ms (ms.foldl (push o) { name }) ∧ (ms.foldl (push o) { name }).Valid o ∧
      (ms.foldl (push o) { name }).name = name := by
  induction ms using List.reverseRecOn with
  | nil => exact ⟨derived_new o name, valid_new o name, rfl⟩
  | append_singleton ms m ih =>
    obtain ⟨hderived, hvalid, hname⟩ := ih
    rw [List.foldl_concat]
    exact ⟨derived_push hderived hvalid m, valid_push hvalid m, (name_push hvalid m).trans hname⟩

/-- The batch of a table has the records of the table, in their order. -/
theorem find?_ofMetrics (o : Options) (ms : List Metric) (table : String) :
    (ofMetrics o ms).find? table =
      if ms.filter (·.name == table) = [] then none
      else some ((ms.filter (·.name == table)).foldl (push o) { name := table }) := by
  induction ms using List.reverseRecOn with
  | nil => rfl
  | append_singleton ms m ih =>
    rw [ofMetrics, List.foldl_concat, ← ofMetrics, pushTo, List.filter_append]
    by_cases hname : m.name = table
    · subst hname
      rw [KeyMap.find?_insert_self, ih]
      have hfilter : [m].filter (·.name == m.name) = [m] := by simp
      rw [hfilter, List.foldl_concat]
      by_cases hnone : ms.filter (·.name == m.name) = []
      · simp [hnone]
      · simp [hnone]
    · rw [KeyMap.find?_insert_of_ne _ (Ne.symm hname), ih]
      have hfilter : [m].filter (·.name == table) = [] := by simp [hname]
      rw [hfilter, List.append_nil]

/-! ## Columns and rows -/

section Exact

variable (h : Derived o ms b) (hb : b.Valid o)
include h hb

/-- The tag columns are those of the tags of some record. -/
theorem mem_tagPart_derived (hjson : o.tagsAsJson = false) {c : Column} : c ∈ b.tagPart o ↔
    c = .ofTag c.name ∧ o.isReserved c.name = false ∧ ∃ m ∈ ms, m.tags.contains c.name = true := by
  have hmem : c ∈ b.tagPart o ↔ b.tagColumns.find? c.name = some c := by
    rw [ColumnList.find?_eq_some_iff hb.tagNames]
    simp [tagPart, hjson]
  rw [hmem, h.tagColumn]
  by_cases htag : o.isReserved c.name = false ∧ isTag ms c.name = true
  · simp only [hjson, htag, and_self, if_true, Option.some.injEq,
      eq_comm (a := Column.ofTag c.name)]
    simpa [isTag] using fun _ => htag.2
  · rw [if_neg fun hall => htag hall.2]
    simpa [isTag] using fun _ hk => (by simpa [isTag, hk] using htag)

/-- The field columns are those of the fields that records bring, with the types of the first
that bring them, and without those that tags took the place of. -/
theorem mem_fieldPart_derived (hjson : o.fieldsAsJson = false) {c : Column} : c ∈ b.fieldPart o ↔
    (o.sharesNames = true → ∀ m ∈ ms, m.tags.contains c.name = false) ∧
      ∃ before m after v, ms = before ++ m :: after ∧ (m.ownFields o).find? c.name = some v ∧
        (∀ m' ∈ before, (m'.ownFields o).find? c.name = none) ∧ c = fieldColumn o c.name v := by
  have hmem : c ∈ b.fieldPart o ↔ b.fieldColumns.find? c.name = some c := by
    rw [ColumnList.find?_eq_some_iff hb.fieldNames]
    simp [fieldPart, hjson]
  have hfree : (o.sharesNames = true → ∀ m ∈ ms, m.tags.contains c.name = false) ↔
      (o.sharesNames = true → isTag ms c.name = false) := by
    simp [isTag]
  rw [hmem, h.fieldColumn, hjson, hfree]
  simp only [Bool.false_eq_true, if_false, Option.map_eq_some_iff]
  by_cases hshared : o.sharesNames = true → isTag ms c.name = false
  · have hown : ∀ m, (fieldsAmong o ms m).find? c.name = (m.ownFields o).find? c.name := by
      intro m
      refine Option.ext fun v => ?_
      rw [find?_fieldsAmong_eq_some]
      exact and_iff_left hshared
    simp only [firstField, hown, List.findSome?_eq_some_iff]
    constructor
    · rintro ⟨v, ⟨before, m, after, hms, hv, hbefore⟩, hc⟩
      exact ⟨hshared, before, m, after, v, hms, hv, hbefore, hc.symm⟩
    · rintro ⟨_, before, m, after, v, hms, hv, hbefore, hc⟩
      exact ⟨v, ⟨before, m, after, hms, hv, hbefore⟩, hc.symm⟩
  · refine ⟨?_, fun hall => absurd hall.1 hshared⟩
    rintro ⟨v, hv, _⟩
    obtain ⟨_, m, _, _, hv, _⟩ := List.findSome?_eq_some_iff.1 hv
    exact absurd (find?_fieldsAmong_eq_some.1 hv).2 hshared

/-- A field column that is there stands for the fields of its name that no tag of their own
record takes the place of. -/
theorem find?_fieldsAmong_of_mem {c : Column} (hjson : o.fieldsAsJson = false)
    (hc : c ∈ b.fieldPart o) (m : Metric) :
    (fieldsAmong o ms m).find? c.name = (m.ownFields o).find? c.name := by
  obtain ⟨hshared, _⟩ := (mem_fieldPart_derived h hb hjson).1 hc
  have htag : o.sharesNames = true → isTag ms c.name = false := by simpa [isTag] using hshared
  refine Option.ext fun v => ?_
  rw [find?_fieldsAmong_eq_some]
  exact and_iff_left htag

/-- The cell of a field column is what the record brings for it. -/
theorem fieldCell_fieldsAmong {c : Column} (hc : c ∈ b.fieldPart o) (m : Metric) :
    fieldCell o c (fieldsAmong o ms m) = fieldCell o c (m.ownFields o) := by
  cases hjson : o.fieldsAsJson with
  | true =>
    have hown : fieldsAmong o ms m = m.ownFields o :=
      KeyMap.ext_entries (List.filter_eq_self.2 fun _ _ => by simp [Options.sharesNames, hjson])
    rw [hown]
  | false => simp [fieldCell, hjson, find?_fieldsAmong_of_mem h hb hjson hc m]

/-- A cell of a row holds what the record of the row has for its column, and nothing else does. -/
theorem inCell_iff_cell (ho : o.HasRoles) {c : Column} (hc : c ∈ b.metricColumns o) (m : Metric)
    (x : Cell) : m.InCell o c x ↔ x = cell o c (entryAmong o ms m) := by
  rcases mem_metricColumns.1 hc with rfl | (⟨_, rfl⟩ | ⟨_, hc⟩) | hc
  · rw [Metric.inCell_time_iff ho.time, cell, ho.time]
    rfl
  · rw [Metric.inCell_tagId_iff ho.tagId, cell, ho.tagId]
    rfl
  · have hrole := role_of_mem_tagPart hb hc
    rw [Metric.inCell_tag_iff hrole, cell, hrole]
    rfl
  · have hrole := role_of_mem_fieldPart hb hc
    rw [Metric.inCell_field_iff hrole, ← fieldCell_fieldsAmong h hb hc, cell, hrole]
    rfl

/-- Every record has a row, with what it has for each column; no other rows are like that. -/
theorem rows_derived (ho : o.HasRoles) (rows : List (List Cell)) : List.Forall₂
    (fun m row => List.Forall₂ (m.InCell o) (b.metricColumns o) row) ms rows ↔
      rows = b.rows o := by
  have hkept : b.kept = ms.map (entryAmong o ms) := by
    rw [kept, ← h.entries]
    exact List.filter_eq_self.2 fun e _ => by simp [isKept, h.lostTagSets]
  rw [TableBatch.rows, hkept, List.map_map]
  exact forall₂_iff_eq_map fun m _ row =>
    forall₂_iff_eq_map fun c hc x => inCell_iff_cell h hb ho hc m x

/-- The columns of tags are those of the tags that count. -/
theorem tagColumns_derived : TagColumns o ms (b.tagPart o) where
  folded hjson := by simp [tagPart, hjson, Options.tagsJsonColumn, tagsJsonName]
  names := nodup_tagPart hb
  mem_iff hjson c := by
    have htag : ∀ m : Metric, (∃ v, m.HasTag o c.name v) ↔
        m.tags.contains c.name = true ∧ o.isReserved c.name = false := by
      intro m
      rw [← Metric.contains_keptTags_iff, Metric.contains_keptTags]
      simp
    have hcolumn : c = .ofTag c.name ↔ c.role = .tag ∧ c.type = .text := by
      cases c
      simp [Column.ofTag]
    simp only [mem_tagPart_derived h hb hjson, htag, hcolumn]
    constructor
    · rintro ⟨⟨hrole, htype⟩, hfree, m, hm, hc⟩
      exact ⟨hrole, htype, m, hm, hc, hfree⟩
    · rintro ⟨hrole, htype, m, hm, hc, hfree⟩
      exact ⟨⟨hrole, htype⟩, hfree, m, hm, hc⟩

/-- The columns of fields are those of the fields that count, with the types of their first
values. -/
theorem fieldColumns_derived : FieldColumns o ms (b.fieldPart o) where
  folded hjson := by simp [fieldPart, hjson, Options.fieldsJsonColumn, fieldsJsonName]
  names := nodup_fieldPart hb
  mem_iff hjson c := by
    have hshared : o.sharesNames = true ↔ o.tagsAsJson = false := by
      simp [Options.sharesNames, hjson]
    have hcolumn : ∀ v, c = fieldColumn o c.name v ↔
        c.role = .field ∧ v.HasType o.unsignedType c.type := by
      intro v
      rw [FieldValue.hasType_iff]
      cases c
      simp [fieldColumn]
    simp only [mem_fieldPart_derived h hb hjson, hshared, Metric.contains_tags_eq_false,
      Metric.find?_ownFields_iff, Metric.find?_ownFields_eq_none, hcolumn]
    constructor
    · rintro ⟨hfree, before, m, after, v, hms, hv, hbefore, hrole, htype⟩
      exact ⟨hrole, hfree, before, m, after, v, hms, hv, hbefore, htype⟩
    · rintro ⟨hrole, hfree, before, m, after, v, hms, hv, hbefore, htype⟩
      exact ⟨hfree, before, m, after, v, hms, hv, hbefore, hrole, htype⟩

end Exact

/-- The batch of a table is derived from the records of the table and from nothing else. It has
the columns of their tags, and the columns of the fields that they bring and that no tag took the
place of. Its rows are the rows with one for each of them, in their order, in which every cell
holds what the record has for the column. -/
theorem ofMetrics_exact (ho : o.HasRoles) (table : String) {own : List Metric}
    (hown : ms.filter (·.name == table) = own) (hne : own ≠ []) :
    ∃ b, (ofMetrics o ms).find? table = some b ∧
      TagColumns o own (b.tagPart o) ∧ FieldColumns o own (b.fieldPart o) ∧
      b.metricColumns o = o.timeColumn ::
        ((if o.tagsAsForeignKeys then [o.tagIdColumn] else b.tagPart o) ++ b.fieldPart o) ∧
      ∀ rows, List.Forall₂ (fun m row => List.Forall₂ (m.InCell o) (b.metricColumns o) row) own
        rows ↔ rows = b.rows o := by
  obtain ⟨hderived, hvalid, _⟩ := derived_foldl o table own
  refine ⟨_, by rw [find?_ofMetrics, hown, if_neg hne], ?_⟩
  exact ⟨tagColumns_derived hderived hvalid, fieldColumns_derived hderived hvalid, rfl,
    rows_derived hderived hvalid ho⟩

/-- Records of two tables. A later record of the first has a tag with the name of a field. -/
def takenOver : List Metric :=
  [{ name := "cpu", tags := .empty, fields := KeyMap.empty.insert "usage" (.int 1),
     timestamp := default },
   { name := "mem", tags := .empty, fields := KeyMap.empty.insert "usage" (.int 2),
     timestamp := default },
   { name := "cpu", tags := KeyMap.empty.insert "usage" "high",
     fields := KeyMap.empty.insert "idle" (.int 3), timestamp := default }]

theorem ofMetrics_exact_takenOver :
    Options.plain.HasRoles ∧ takenOver.filter (·.name == "cpu") ≠ [] ∧
      ∃ b, (ofMetrics .plain takenOver).find? "cpu" = some b ∧ (b.rows .plain).length = 2 ∧
        ∀ c ∈ b.fieldPart .plain, c.name ≠ "usage" := by
  have hne : takenOver.filter (·.name == "cpu") ≠ [] := List.cons_ne_nil _ _
  have ho := Options.hasFixedColumns_plain.hasRoles
  obtain ⟨b, hb, _, hfields, _, hrows⟩ := ofMetrics_exact ho "cpu"
    (rfl : takenOver.filter (·.name == "cpu") = _) hne
  have hlength := ((hrows _).2 rfl).length_eq
  refine ⟨ho, hne, b, hb, hlength.symm.trans rfl, fun c hc hname => ?_⟩
  obtain ⟨_, hfree, _⟩ := (hfields.mem_iff rfl c).1 hc
  exact hfree rfl _ (.tail _ (.head _)) "high" (by rw [hname]; decide)

end TableBatch

end MetricTables
