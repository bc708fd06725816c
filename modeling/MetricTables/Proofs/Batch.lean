import MetricTables.Batch
import MetricTables.Proofs.Definition
import MetricTables.Proofs.Layout

/-!
# Columns of batches

The columns that a batch needs have different names and are read back from a store as they
are asked for, as long as the fixed columns of the layout have different names. Giving up
columns takes exactly these away.

## Main definitions

* `TableBatch.Valid` — the columns of tags and fields have proper names and types.
* `TableBatch.Built` — batches that come about by adding records and giving up columns.

## Main statements

* `valid_pushes`, `valid_dropColumn` — validity is kept.
* `nodup_columnNames_iff`, `nodup_tagColumnNames_iff` — when the columns of a table have different
  names.
* `nodup_metricColumns`, `nodup_tagTableColumns` — they do if the fixed columns of the layout do.
* `recovered_metricColumns`, `recovered_tagTableColumns` — the columns are read back.
* `mem_of_dropColumn` — a column that is given up is needed no longer.
-/

namespace MetricTables

/-! ## Lists of columns -/

namespace ColumnList

variable {l : ColumnList} {c d : Column} {name : String}

theorem mem_push (h : d ∈ (l.push c).columns) :
    d ∈ l.columns ∨ d = c ∧ l.contains c.name = false := by
  unfold push at h
  split at h
  · exact .inl h
  next hnew =>
    rcases List.mem_append.1 h with h | h
    · exact .inl h
    · exact .inr ⟨List.mem_singleton.1 h, by simpa using hnew⟩

theorem nodup_push (h : (l.columns.map Column.name).Nodup) :
    ((l.push c).columns.map Column.name).Nodup := by
  unfold push
  split
  · exact h
  next hnew =>
    rw [List.map_append, List.nodup_append]
    refine ⟨h, by simp, ?_⟩
    rintro n hn m hm rfl
    obtain ⟨d, hd, hname⟩ := List.mem_map.1 hn
    simp only [List.map_cons, List.map_nil, List.mem_singleton] at hm
    refine hnew (List.any_eq_true.2 ⟨d, hd, ?_⟩)
    simp [hname, hm]

theorem mem_of_mem_erase (h : d ∈ (l.erase name).columns) : d ∈ l.columns :=
  List.mem_of_mem_eraseP h

theorem nodup_erase (h : (l.columns.map Column.name).Nodup) :
    ((l.erase name).columns.map Column.name).Nodup :=
  h.sublist (List.eraseP_sublist.map _)

/-- What is erased is gone if names are different. -/
theorem name_ne_of_mem_erase (hl : (l.columns.map Column.name).Nodup)
    (h : d ∈ (l.erase name).columns) : d.name ≠ name := by
  obtain ⟨cs⟩ := l
  induction cs with
  | nil => cases h
  | cons c cs ih =>
    obtain ⟨hc, hcs⟩ := List.nodup_cons.1 hl
    by_cases hname : c.name = name
    · have herase : (⟨c :: cs⟩ : ColumnList).erase name = ⟨cs⟩ := by
        simp [erase, hname]
      rw [herase] at h
      rintro rfl
      exact hc (hname ▸ List.mem_map.2 ⟨d, h, rfl⟩)
    · have herase : (⟨c :: cs⟩ : ColumnList).erase name =
          ⟨c :: ((⟨cs⟩ : ColumnList).erase name).columns⟩ := by
        simp [erase, hname]
      rw [herase] at h
      rcases List.mem_cons.1 h with rfl | h
      · exact hname
      · exact ih hcs h

theorem contains_eq_false (h : l.contains name = false) (hd : d ∈ l.columns) : d.name ≠ name := by
  simp only [contains, List.any_eq_false, beq_iff_eq] at h
  exact h d hd

/-- A column is found under its name if no other column has it. -/
theorem find?_of_mem (hl : (l.columns.map Column.name).Nodup) (hc : c ∈ l.columns) :
    l.find? c.name = some c := by
  cases hfind : l.find? c.name with
  | none =>
    have hnone := List.find?_eq_none.1 hfind c hc
    simp at hnone
  | some d =>
    have hname : d.name = c.name := by simpa using List.find?_some hfind
    rw [List.inj_on_of_nodup_map hl (List.mem_of_find?_eq_some hfind) hc hname]

theorem mem_erase_of_ne (hd : d ∈ l.columns) (hname : d.name ≠ name) : d ∈ (l.erase name).columns :=
  (List.mem_eraseP_of_neg (by simpa using hname)).2 hd

/-- If names are different, the columns are what is found under their names. -/
theorem find?_eq_some_iff (hl : (l.columns.map Column.name).Nodup) :
    l.find? name = some c ↔ c ∈ l.columns ∧ c.name = name := by
  constructor
  · intro hfind
    exact ⟨List.mem_of_find?_eq_some hfind, by simpa using List.find?_some hfind⟩
  · rintro ⟨hc, rfl⟩
    exact find?_of_mem hl hc

/-- What is erased is found no longer. -/
theorem find?_erase (hl : (l.columns.map Column.name).Nodup) (name other : String) :
    (l.erase name).find? other = if other = name then none else l.find? other := by
  refine Option.ext fun c => ?_
  rw [find?_eq_some_iff (nodup_erase hl)]
  by_cases hother : other = name
  · subst hother
    simp only [if_pos, reduceCtorEq, iff_false, not_and]
    exact fun hc => name_ne_of_mem_erase hl hc
  · rw [if_neg hother, find?_eq_some_iff hl]
    constructor
    · rintro ⟨hc, hname⟩
      exact ⟨mem_of_mem_erase hc, hname⟩
    · rintro ⟨hc, rfl⟩
      exact ⟨mem_erase_of_ne hc hother, rfl⟩

end ColumnList

namespace TableBatch

variable {o : Options} {b b' : TableBatch} {c : Column}

/-! ## Valid batches -/

/-- The columns of tags and of fields have names of their own that no fixed column has, and
types with a spelling. -/
structure Valid (o : Options) (b : TableBatch) : Prop where
  tagNames : (b.tagColumns.columns.map Column.name).Nodup
  fieldNames : (b.fieldColumns.columns.map Column.name).Nodup
  tags : ∀ c ∈ b.tagColumns.columns, c.role = .tag ∧ (∀ s, c.type ≠ .other s) ∧
    o.isReserved c.name = false
  fields : ∀ c ∈ b.fieldColumns.columns, c.role = .field ∧ (∀ s, c.type ≠ .other s) ∧
    o.isReserved c.name = false
  disjoint : o.sharesNames = true →
    ∀ c ∈ b.tagColumns.columns, ∀ d ∈ b.fieldColumns.columns, c.name ≠ d.name

theorem valid_new (o : Options) (name : String) : Valid o { name } where
  tagNames := List.nodup_nil
  fieldNames := List.nodup_nil
  tags _ h := by cases h
  fields _ h := by cases h
  disjoint _ _ h := by cases h

theorem valid_withoutField (h : Valid o b) (name : String) : Valid o (b.withoutField name) where
  tagNames := h.tagNames
  fieldNames := ColumnList.nodup_erase h.fieldNames
  tags := h.tags
  fields c hc := h.fields c (ColumnList.mem_of_mem_erase hc)
  disjoint hs c hc d hd := h.disjoint hs c hc d (ColumnList.mem_of_mem_erase hd)

/-- A field of the same name gives way to the tag, so that names stay different. -/
theorem valid_addTagColumn (h : Valid o b) {name : String} (hname : o.isReserved name = false) :
    Valid o (b.addTagColumn o name) := by
  -- no field of a shared table has the name once the tag is pushed
  have hcleared : ∃ b₁ : TableBatch, Valid o b₁ ∧
      b.addTagColumn o name = { b₁ with tagColumns := b₁.tagColumns.push (.ofTag name) } ∧
      (o.sharesNames = true → ∀ d ∈ b₁.fieldColumns.columns, d.name ≠ name) := by
    by_cases hshared : (o.sharesNames && b.fieldColumns.contains name) = true
    · have hadd : b.addTagColumn o name = { b.withoutField name with
          tagColumns := (b.withoutField name).tagColumns.push (.ofTag name) } := by
        rw [addTagColumn, if_pos hshared]
      refine ⟨b.withoutField name, valid_withoutField h name, hadd, ?_⟩
      exact fun _ d hd => ColumnList.name_ne_of_mem_erase h.fieldNames hd
    · refine ⟨b, h, by rw [addTagColumn, if_neg hshared], fun hs d hd => ?_⟩
      exact ColumnList.contains_eq_false (by simpa [hs] using hshared) hd
  obtain ⟨b₁, h₁, heq, hfree⟩ := hcleared
  rw [heq]
  refine ⟨ColumnList.nodup_push h₁.tagNames, h₁.fieldNames, fun c hc => ?_, h₁.fields,
    fun hs c hc d hd => ?_⟩
  · rcases ColumnList.mem_push hc with hc | ⟨rfl, _⟩
    · exact h₁.tags c hc
    · exact ⟨rfl, fun s hs => (by cases hs), hname⟩
  · rcases ColumnList.mem_push hc with hc | ⟨rfl, _⟩
    · exact h₁.disjoint hs c hc d hd
    · exact (hfree hs d hd).symm

theorem valid_addFieldColumn (h : Valid o b) {name : String} {v : FieldValue}
    (hname : o.isReserved name = false)
    (hfree : o.sharesNames = true → ∀ c ∈ b.tagColumns.columns, c.name ≠ name) :
    Valid o (b.addFieldColumn o name v) := by
  refine ⟨h.tagNames, ColumnList.nodup_push h.fieldNames, h.tags, fun c hc => ?_,
    fun hs c hc d hd => ?_⟩
  · rcases ColumnList.mem_push hc with hc | ⟨rfl, _⟩
    · exact h.fields c hc
    · refine ⟨rfl, fun s hs => ?_, hname⟩
      cases v with
      | uint n => cases hu : o.unsignedType <;> simp [FieldValue.resolve, hu] at hs
      | _ => cases hs
  · rcases ColumnList.mem_push hd with hd | ⟨rfl, _⟩
    · exact h.disjoint hs c hc d hd
    · exact hfree hs c hc

/-- Tags that a record brings are pushed one after the other. -/
theorem valid_addTagColumns (h : Valid o b) {names : List String}
    (hnames : ∀ n ∈ names, o.isReserved n = false) :
    Valid o (names.foldl (addTagColumn o) b) ∧
      ∀ c ∈ (names.foldl (addTagColumn o) b).tagColumns.columns,
        c ∈ b.tagColumns.columns ∨ c.name ∈ names := by
  induction names generalizing b with
  | nil => exact ⟨h, fun c hc => .inl hc⟩
  | cons n ns ih =>
    have hn := hnames n List.mem_cons_self
    obtain ⟨hvalid, hcolumns⟩ :=
      ih (valid_addTagColumn h hn) fun m hm => hnames m (List.mem_cons_of_mem _ hm)
    refine ⟨hvalid, fun c hc => ?_⟩
    rcases hcolumns c hc with hc | hc
    · have htags : (b.addTagColumn o n).tagColumns = b.tagColumns.push (.ofTag n) := by
        unfold addTagColumn
        dsimp only
        split <;> rfl
      rw [htags] at hc
      rcases ColumnList.mem_push hc with hc | ⟨rfl, _⟩
      · exact .inl hc
      · exact .inr List.mem_cons_self
    · exact .inr (List.mem_cons_of_mem _ hc)

theorem valid_addFieldColumns (h : Valid o b) {entries : List (String × FieldValue)}
    (hnames : ∀ e ∈ entries, o.isReserved e.1 = false ∧
      (o.sharesNames = true → ∀ c ∈ b.tagColumns.columns, c.name ≠ e.1)) :
    Valid o (entries.foldl (fun b e => b.addFieldColumn o e.1 e.2) b) := by
  induction entries generalizing b with
  | nil => exact h
  | cons e es ih =>
    obtain ⟨hname, hfree⟩ := hnames e List.mem_cons_self
    exact ih (valid_addFieldColumn h hname hfree) fun d hd => hnames d (List.mem_cons_of_mem _ hd)

/-- A record keeps a batch valid. -/
theorem valid_push (h : Valid o b) (m : Metric) : Valid o (b.push o m) := by
  have hwiden : Valid o (b.widen o (acceptedTags o m.tags)
      (b.acceptedFields o (acceptedTags o m.tags) m.fields)) := by
    have htags : ∀ n ∈ (acceptedTags o m.tags).keys, o.isReserved n = false := by
      intro n hn
      obtain ⟨_, hn⟩ := KeyMap.mem_keys_filter hn
      simpa using hn
    have hfields : ∀ e ∈ (b.acceptedFields o (acceptedTags o m.tags) m.fields).entries,
        o.isReserved e.1 = false ∧ e.1 ∉ (acceptedTags o m.tags).keys ∧
          (o.sharesNames = true → ∀ c ∈ b.tagColumns.columns, c.name ≠ e.1) := by
      intro e he
      obtain ⟨_, hname⟩ := KeyMap.mem_keys_filter (List.mem_map.2 ⟨e, he, rfl⟩)
      simp only [Bool.not_eq_true', Bool.or_eq_false_iff, Bool.and_eq_false_iff] at hname
      obtain ⟨⟨hfree, htag⟩, hshared⟩ := hname
      refine ⟨hfree, fun hmem => ?_, fun hs c hc => ?_⟩
      · rw [KeyMap.mem_keys.1 hmem] at htag
        cases htag
      · rcases hshared with hshared | hshared
        · rw [hs] at hshared
          cases hshared
        · exact ColumnList.contains_eq_false hshared hc
    obtain ⟨b₁, hvalid, hcolumns, heq⟩ : ∃ b₁ : TableBatch, Valid o b₁ ∧
        (∀ c ∈ b₁.tagColumns.columns,
          c ∈ b.tagColumns.columns ∨ c.name ∈ (acceptedTags o m.tags).keys) ∧
        b₁ = if o.tagsAsJson then b else (acceptedTags o m.tags).keys.foldl (addTagColumn o) b := by
      by_cases hjson : o.tagsAsJson = true
      · exact ⟨b, h, fun c hc => .inl hc, by rw [if_pos hjson]⟩
      · obtain ⟨hvalid, hcolumns⟩ := valid_addTagColumns h htags
        exact ⟨_, hvalid, hcolumns, by rw [if_neg hjson]⟩
    unfold widen
    rw [← heq]
    dsimp only
    split
    · exact hvalid
    · refine valid_addFieldColumns hvalid fun e he => ?_
      obtain ⟨hfree, htag, hshared⟩ := hfields e he
      refine ⟨hfree, fun hs c hc => ?_⟩
      rcases hcolumns c hc with hc | hc
      · exact hshared hs c hc
      · exact fun hname => htag (hname ▸ hc)
  exact ⟨hwiden.tagNames, hwiden.fieldNames, hwiden.tags, hwiden.fields, hwiden.disjoint⟩

theorem valid_pushes (h : Valid o b) (ms : List Metric) : Valid o (ms.foldl (push o) b) := by
  induction ms generalizing b with
  | nil => exact h
  | cons m ms ih => exact ih (valid_push h m)

/-! ## Giving up columns -/

/-- A column that is given up is one of many, and needed no longer. -/
theorem dropColumn_eq (h : b.dropColumn o c = .ok b') :
    (c.role = .tag ∧ o.tagsAsJson = false ∧ b' = b.dropTag c.name) ∨
      (c.role = .field ∧ o.fieldsAsJson = false ∧ b' = b.dropField c.name) := by
  unfold dropColumn isUndroppable at h
  cases hrole : c.role <;> simp only [hrole] at h
  · cases h
  · cases h
  · cases hjson : o.tagsAsJson <;> simp only [hjson] at h
    · exact .inl ⟨rfl, rfl, (Except.ok.inj h).symm⟩
    · cases h
  · cases hjson : o.fieldsAsJson <;> simp only [hjson] at h
    · exact .inr ⟨rfl, rfl, (Except.ok.inj h).symm⟩
    · cases h

/-- A column is given up unless it is critical. -/
theorem dropColumn_cases (o : Options) (b : TableBatch) (c : Column) :
    (isUndroppable o c = true ∧ b.dropColumn o c = .error (.criticalColumn c.name)) ∨
      isUndroppable o c = false ∧ ∃ b', b.dropColumn o c = .ok b' := by
  unfold dropColumn
  cases isUndroppable o c with
  | true => exact .inl ⟨rfl, rfl⟩
  | false =>
    refine .inr ⟨rfl, ?_⟩
    by_cases htag : (c.role == .tag) = true
    · exact ⟨_, if_pos htag⟩
    · exact ⟨_, if_neg htag⟩

/-- A tag that is given up leaves the fields and the other tags as they are. -/
theorem dropTag_columns (h : Valid o b) (name : String) :
    (b.dropTag name).fieldColumns = b.fieldColumns ∧
      ((b.dropTag name).tagColumns.columns.map Column.name).Nodup ∧
      ∀ d ∈ (b.dropTag name).tagColumns.columns, d ∈ b.tagColumns.columns ∧ d.name ≠ name := by
  unfold dropTag
  split
  next hfind =>
    have hnone : b.tagColumns.contains name = false := by
      rw [ColumnList.contains_eq_isSome, hfind]
      rfl
    exact ⟨rfl, h.tagNames, fun d hd => ⟨hd, ColumnList.contains_eq_false hnone hd⟩⟩
  · exact ⟨rfl, ColumnList.nodup_erase h.tagNames, fun d hd =>
      ⟨ColumnList.mem_of_mem_erase hd, ColumnList.name_ne_of_mem_erase h.tagNames hd⟩⟩

theorem dropField_columns (h : Valid o b) (name : String) :
    (b.dropField name).tagColumns = b.tagColumns ∧
      ((b.dropField name).fieldColumns.columns.map Column.name).Nodup ∧
      ∀ d ∈ (b.dropField name).fieldColumns.columns,
        d ∈ b.fieldColumns.columns ∧ d.name ≠ name := by
  unfold dropField
  split
  next hfind =>
    have hnone : b.fieldColumns.contains name = false := by
      rw [ColumnList.contains_eq_isSome, hfind]
      rfl
    exact ⟨rfl, h.fieldNames, fun d hd => ⟨hd, ColumnList.contains_eq_false hnone hd⟩⟩
  · exact ⟨rfl, ColumnList.nodup_erase h.fieldNames, fun d hd =>
      ⟨ColumnList.mem_of_mem_erase hd, ColumnList.name_ne_of_mem_erase h.fieldNames hd⟩⟩

/-- Giving up a column keeps a batch valid. -/
theorem valid_dropColumn (h : Valid o b) (hdrop : b.dropColumn o c = .ok b') : Valid o b' := by
  rcases dropColumn_eq hdrop with ⟨_, _, rfl⟩ | ⟨_, _, rfl⟩
  · obtain ⟨hfields, hnames, htags⟩ := dropTag_columns h c.name
    refine ⟨hnames, hfields ▸ h.fieldNames, fun d hd => h.tags d (htags d hd).1,
      hfields ▸ h.fields, fun hs d hd e he => h.disjoint hs d (htags d hd).1 e ?_⟩
    rwa [hfields] at he
  · obtain ⟨htags, hnames, hfields⟩ := dropField_columns h c.name
    refine ⟨htags ▸ h.tagNames, hnames, htags ▸ h.tags, fun d hd => h.fields d (hfields d hd).1,
      fun hs d hd e he => h.disjoint hs d ?_ e (hfields e he).1⟩
    rwa [htags] at hd

/-- Batches that come about by adding records and giving up columns. -/
inductive Built (o : Options) : TableBatch → Prop
  | new (name : String) : Built o { name }
  | push {b : TableBatch} (m : Metric) (h : Built o b) : Built o (b.push o m)
  | dropColumn {b b' : TableBatch} {c : Column} (h : Built o b)
    (hdrop : b.dropColumn o c = .ok b') :
    Built o b'

theorem Built.valid (h : Built o b) : Valid o b := by
  induction h with
  | new name => exact valid_new o name
  | push m _ ih => exact valid_push ih m
  | dropColumn _ hdrop ih => exact valid_dropColumn ih hdrop

/-! ## Columns of tags and columns of fields -/

/-- Columns of one role that go into a table with the fixed ones. -/
structure IsPart (o : Options) (role : Role) (cs : List Column) : Prop where
  names : (cs.map Column.name).Nodup
  columns : ∀ c ∈ cs, c.role = role ∧ c.IsRecovered o ∧ c.name ≠ o.timeColumn.name ∧
    c.name ≠ o.tagIdColumn.name

theorem not_isReserved {name : String} (h : o.isReserved name = false) :
    name ≠ o.timeColumn.name ∧ name ≠ o.tagIdColumn.name ∧
      (o.tagsAsJson = true → name ≠ tagsJsonName) ∧
      (o.fieldsAsJson = true → name ≠ fieldsJsonName) := by
  simpa [Options.isReserved, and_assoc] using h

/-- A column that no fixed column is like is known by its comment. -/
theorem role_of_not_isReserved {s : StoredColumn} (h : o.isReserved s.name = false) :
    s.role o = if (s.comment.bind fun text => (Text.words text.toList).head?) =
      some tagComment.toList then .tag else .field := by
  obtain ⟨htime, htagId, htags, hfields⟩ := not_isReserved h
  have htags' : ¬ (o.tagsAsJson = true ∧ s.name = tagsJsonName) := fun h => htags h.1 h.2
  have hfields' : ¬ (o.fieldsAsJson = true ∧ s.name = fieldsJsonName) := fun h => hfields h.1 h.2
  rw [StoredColumn.role, if_neg htime, if_neg htagId, if_neg htags', if_neg hfields']

theorem role_tagsJson {s : StoredColumn} (ho : o.HasFixedColumns) (hjson : o.tagsAsJson = true)
    (hs : s.name = tagsJsonName) : s.role o = .tag := by
  obtain ⟨htime, htagId⟩ := ho.tagsJson hjson
  rw [StoredColumn.role, hs, if_neg htime, if_neg htagId, if_pos ⟨hjson, rfl⟩]

theorem role_fieldsJson {s : StoredColumn} (ho : o.HasFixedColumns) (hjson : o.fieldsAsJson = true)
    (hs : s.name = fieldsJsonName) : s.role o = .field := by
  obtain ⟨htime, htagId⟩ := ho.fieldsJson hjson
  have hne : fieldsJsonName ≠ tagsJsonName := by decide
  rw [StoredColumn.role, hs, if_neg htime, if_neg htagId, if_neg (fun h => hne h.2),
    if_pos ⟨hjson, rfl⟩]

theorem nodup_tagPart (h : Valid o b) : ((b.tagPart o).map Column.name).Nodup := by
  unfold tagPart
  split
  · exact List.nodup_singleton _
  · exact h.tagNames

theorem nodup_fieldPart (h : Valid o b) : ((b.fieldPart o).map Column.name).Nodup := by
  unfold fieldPart
  split
  · exact List.nodup_singleton _
  · exact h.fieldNames

theorem role_of_mem_tagPart (h : Valid o b) (hc : c ∈ b.tagPart o) : c.role = .tag := by
  unfold tagPart at hc
  split at hc
  · rw [List.mem_singleton.1 hc]
    rfl
  · exact (h.tags c hc).1

theorem role_of_mem_fieldPart (h : Valid o b) (hc : c ∈ b.fieldPart o) : c.role = .field := by
  unfold fieldPart at hc
  split at hc
  · rw [List.mem_singleton.1 hc]
    rfl
  · exact (h.fields c hc).1

/-- The columns of the tags have different names, none of them fixed; so has the folded one. -/
theorem isPart_tagPart (ho : o.HasFixedColumns) (h : Valid o b) : IsPart o .tag (b.tagPart o) := by
  refine ⟨nodup_tagPart h, fun c hc => ⟨role_of_mem_tagPart h hc, ?_⟩⟩
  unfold tagPart at hc
  split at hc
  next hjson =>
    obtain rfl := List.mem_singleton.1 hc
    refine ⟨⟨fun s hs => (by cases hs), ?_⟩, ho.tagsJson hjson⟩
    exact role_tagsJson ho hjson (by simp [Options.tagsJsonColumn])
  next hjson =>
    obtain ⟨hrole, htype, hfree⟩ := h.tags c hc
    refine ⟨⟨htype, ?_⟩, (not_isReserved hfree).1, (not_isReserved hfree).2.1⟩
    have hword : (Text.words tagComment.toList).head? = some tagComment.toList := by
      decide +kernel
    rw [role_of_not_isReserved (by simpa using hfree), Column.marked, if_pos hrole, hrole]
    simp [StoredColumn.asTag, hword]

theorem isPart_fieldPart (ho : o.HasFixedColumns) (h : Valid o b) :
    IsPart o .field (b.fieldPart o) := by
  refine ⟨nodup_fieldPart h, fun c hc => ⟨role_of_mem_fieldPart h hc, ?_⟩⟩
  unfold fieldPart at hc
  split at hc
  next hjson =>
    obtain rfl := List.mem_singleton.1 hc
    refine ⟨⟨fun s hs => (by cases hs), ?_⟩, ho.fieldsJson hjson⟩
    exact role_fieldsJson ho hjson (by simp [Options.fieldsJsonColumn])
  next hjson =>
    obtain ⟨hrole, htype, hfree⟩ := h.fields c hc
    refine ⟨⟨htype, ?_⟩, (not_isReserved hfree).1, (not_isReserved hfree).2.1⟩
    have hmarked : c.marked = c.stored := if_neg (by simp [hrole])
    have hcomment : c.stored.comment = none := rfl
    rw [hmarked, role_of_not_isReserved hfree, hcomment, hrole]
    rfl

/-- No column of tags has the name of a column of fields. -/
theorem tagPart_ne_fieldPart (h : Valid o b) {c d : Column} (hc : c ∈ b.tagPart o)
    (hd : d ∈ b.fieldPart o) : c.name ≠ d.name := by
  unfold tagPart at hc
  unfold fieldPart at hd
  split at hc <;> split at hd
  · obtain rfl := List.mem_singleton.1 hc
    obtain rfl := List.mem_singleton.1 hd
    have hne : tagsJsonName ≠ fieldsJsonName := by decide
    exact hne
  next htags _ =>
    obtain rfl := List.mem_singleton.1 hc
    exact ((not_isReserved (h.fields d hd).2.2).2.2.1 htags).symm
  next _ hfields =>
    obtain rfl := List.mem_singleton.1 hd
    exact (not_isReserved (h.tags c hc).2.2).2.2.2 hfields
  next htags hfields =>
    exact h.disjoint (by simp [Options.sharesNames, htags, hfields]) c hc d hd

/-! ## Columns of tables -/

theorem recovered_timeColumn (ho : o.HasFixedColumns) : o.timeColumn.IsRecovered o where
  type := ho.timeType
  role := by simp [StoredColumn.role, ho.timeRole]

theorem recovered_tagIdColumn (ho : o.HasFixedColumns) : o.tagIdColumn.IsRecovered o where
  type := ho.tagIdType
  role := by simp [StoredColumn.role, ho.tagId, ho.tagIdRole]

/-- The columns of tags do not have the name of the time or of the key, if that is not the one of
the column that holds all tags. -/
theorem not_mem_tagPart_iff (h : Valid o b) {name : String}
    (hname : name = o.timeColumn.name ∨ name = o.tagIdColumn.name) :
    name ∉ (b.tagPart o).map Column.name ↔ (o.tagsAsJson = true → name ≠ tagsJsonName) := by
  unfold tagPart
  split
  next hjson => simp [hjson, Options.tagsJsonColumn]
  next hjson =>
    refine ⟨fun _ h => absurd h hjson, fun _ hmem => ?_⟩
    obtain ⟨c, hc, rfl⟩ := List.mem_map.1 hmem
    obtain ⟨htime, htagId, _⟩ := not_isReserved (h.tags c hc).2.2
    exact hname.elim htime htagId

/-- The columns of fields do not have the name of the time or of the key, if that is not the one
of the column that holds all fields. -/
theorem not_mem_fieldPart_iff (h : Valid o b) {name : String}
    (hname : name = o.timeColumn.name ∨ name = o.tagIdColumn.name) :
    name ∉ (b.fieldPart o).map Column.name ↔ (o.fieldsAsJson = true → name ≠ fieldsJsonName) := by
  unfold fieldPart
  split
  next hjson => simp [hjson, Options.fieldsJsonColumn]
  next hjson =>
    refine ⟨fun _ h => absurd h hjson, fun _ hmem => ?_⟩
    obtain ⟨c, hc, rfl⟩ := List.mem_map.1 hmem
    obtain ⟨htime, htagId, _⟩ := not_isReserved (h.fields c hc).2.2
    exact hname.elim htime htagId

/-- The names in the tag table are different as long as the key is not called like the column that
holds all tags. -/
theorem nodup_tagColumnNames_iff (h : Valid o b) :
    (b.tagColumnNames o).Nodup ↔ (o.tagsAsJson = true → o.tagIdColumn.name ≠ tagsJsonName) := by
  rw [tagColumnNames, tagTableColumns, List.map_cons, List.nodup_cons,
    not_mem_tagPart_iff h (.inr rfl), and_iff_left (nodup_tagPart h)]

/-- The names in the metric table are different as long as the time, and the key if it is there,
are not called like the columns that hold all tags or all fields. -/
theorem nodup_columnNames_iff (h : Valid o b) (hne : o.timeColumn.name ≠ o.tagIdColumn.name) :
    (b.columnNames o).Nodup ↔
      (o.tagsAsForeignKeys = false → o.tagsAsJson = true → o.timeColumn.name ≠ tagsJsonName) ∧
        (o.fieldsAsJson = true → o.timeColumn.name ≠ fieldsJsonName ∧
          (o.tagsAsForeignKeys = true → o.tagIdColumn.name ≠ fieldsJsonName)) := by
  have hfields := not_mem_fieldPart_iff h (.inl rfl)
  rw [columnNames, metricColumns, List.map_cons, List.nodup_cons, List.map_append]
  cases hkeys : o.tagsAsForeignKeys with
  | true =>
    have hkey := not_mem_fieldPart_iff h (.inr rfl)
    simp only [if_pos, List.map_cons, List.map_nil, List.singleton_append, List.mem_cons, not_or,
      List.nodup_cons, hfields, hkey, nodup_fieldPart h, hne]
    grind
  | false =>
    have htags := not_mem_tagPart_iff h (.inl rfl)
    have happend : ((b.tagPart o).map Column.name ++ (b.fieldPart o).map Column.name).Nodup := by
      refine List.nodup_append.2 ⟨nodup_tagPart h, nodup_fieldPart h, ?_⟩
      rintro n hn m hm rfl
      obtain ⟨c, hc, hname⟩ := List.mem_map.1 hn
      obtain ⟨d, hd, hname'⟩ := List.mem_map.1 hm
      exact tagPart_ne_fieldPart h hc hd (hname.trans hname'.symm)
    simp only [Bool.false_eq_true, if_false, List.mem_append, not_or, htags, hfields, happend]
    grind

theorem nodup_tagTableColumns (ho : o.HasFixedColumns) (h : Valid o b) :
    ((b.tagTableColumns o).map Column.name).Nodup :=
  (nodup_tagColumnNames_iff h).2 fun hjson => (ho.tagsJson hjson).2.symm

theorem recovered_tagTableColumns (ho : o.HasFixedColumns) (h : Valid o b) {c : Column}
    (hc : c ∈ b.tagTableColumns o) : c.IsRecovered o := by
  rcases List.mem_cons.1 hc with rfl | hc
  · exact recovered_tagIdColumn ho
  · exact ((isPart_tagPart ho h).columns c hc).2.1

/-- A column of the metric table is the time, the key of tags, or of one of the parts. -/
theorem mem_metricColumns {c : Column} : c ∈ b.metricColumns o ↔ c = o.timeColumn ∨
    (o.tagsAsForeignKeys = true ∧ c = o.tagIdColumn ∨
      o.tagsAsForeignKeys = false ∧ c ∈ b.tagPart o) ∨ c ∈ b.fieldPart o := by
  unfold metricColumns
  cases o.tagsAsForeignKeys <;> simp

/-- The role of a column says where it comes from. -/
theorem place_of_mem (ho : o.HasRoles) (h : Valid o b)
    (hc : c ∈ b.metricColumns o ∨ c ∈ b.tagTableColumns o) :
    c.role = .time ∧ c = o.timeColumn ∨ c.role = .tagId ∧ c = o.tagIdColumn ∨
      c.role = .tag ∧ c ∈ b.tagPart o ∨ c.role = .field ∧ c ∈ b.fieldPart o := by
  have hany : c = o.timeColumn ∨ c = o.tagIdColumn ∨ c ∈ b.tagPart o ∨ c ∈ b.fieldPart o := by
    rw [mem_metricColumns, tagTableColumns, List.mem_cons] at hc
    tauto
  rcases hany with rfl | rfl | hc | hc
  · exact .inl ⟨ho.time, rfl⟩
  · exact .inr (.inl ⟨ho.tagId, rfl⟩)
  · exact .inr (.inr (.inl ⟨role_of_mem_tagPart h hc, hc⟩))
  · exact .inr (.inr (.inr ⟨role_of_mem_fieldPart h hc, hc⟩))

theorem nodup_metricColumns (ho : o.HasFixedColumns) (h : Valid o b) :
    ((b.metricColumns o).map Column.name).Nodup :=
  (nodup_columnNames_iff h ho.tagId.symm).2
    ⟨fun _ hjson => (ho.tagsJson hjson).1.symm, fun hjson =>
      ⟨(ho.fieldsJson hjson).1.symm, fun _ => (ho.fieldsJson hjson).2.symm⟩⟩

/-- A store reports every column of the metric table with the role and type that it was given. -/
theorem recovered_metricColumns (ho : o.HasFixedColumns) (h : Valid o b) {c : Column}
    (hc : c ∈ b.metricColumns o) : c.IsRecovered o := by
  rcases mem_metricColumns.1 hc with rfl | (⟨_, rfl⟩ | ⟨_, hc⟩) | hc
  · exact recovered_timeColumn ho
  · exact recovered_tagIdColumn ho
  · exact ((isPart_tagPart ho h).columns c hc).2.1
  · exact ((isPart_fieldPart ho h).columns c hc).2.1

/-! ## What is left -/

/-- A column that is given up is needed no longer, and no column is needed that was not. -/
theorem parts_of_dropColumn (ho : o.HasFixedColumns) (h : Valid o b)
    (hdrop : b.dropColumn o c = .ok b') :
    (∀ d ∈ b'.tagPart o, d ∈ b.tagPart o ∧ d ≠ c) ∧
      ∀ d ∈ b'.fieldPart o, d ∈ b.fieldPart o ∧ d ≠ c := by
  have h' := valid_dropColumn h hdrop
  have hroles : (∀ d ∈ b'.tagPart o, d.role = .tag) ∧ ∀ d ∈ b'.fieldPart o, d.role = .field :=
    ⟨fun d hd => ((isPart_tagPart ho h').columns d hd).1,
      fun d hd => ((isPart_fieldPart ho h').columns d hd).1⟩
  rcases dropColumn_eq hdrop with ⟨hrole, hjson, rfl⟩ | ⟨hrole, hjson, rfl⟩
  · obtain ⟨hfields, _, htags⟩ := dropTag_columns h c.name
    refine ⟨fun d hd => ?_, fun d hd => ⟨?_, ?_⟩⟩
    · simp only [tagPart, hjson] at hd ⊢
      exact ⟨(htags d hd).1, fun he => (htags d hd).2 (congrArg Column.name he)⟩
    · rwa [fieldPart, hfields] at hd
    · rintro rfl
      cases (hroles.2 d hd).symm.trans hrole
  · obtain ⟨htags, _, hfields⟩ := dropField_columns h c.name
    refine ⟨fun d hd => ⟨?_, ?_⟩, fun d hd => ?_⟩
    · rwa [tagPart, htags] at hd
    · rintro rfl
      cases (hroles.1 d hd).symm.trans hrole
    · simp only [fieldPart, hjson] at hd ⊢
      exact ⟨(hfields d hd).1, fun he => (hfields d hd).2 (congrArg Column.name he)⟩

theorem name_of_dropColumn (hdrop : b.dropColumn o c = .ok b') : b'.name = b.name := by
  rcases dropColumn_eq hdrop with ⟨_, _, rfl⟩ | ⟨_, _, rfl⟩
  · unfold dropTag
    split <;> rfl
  · unfold dropField
    split <;> rfl

/-- What is needed of the tables after a column was given up was needed before, and is
another column. -/
theorem mem_of_dropColumn (ho : o.HasFixedColumns) (h : Valid o b)
    (hdrop : b.dropColumn o c = .ok b') :
    (∀ d ∈ b'.metricColumns o, d ∈ b.metricColumns o ∧ d ≠ c) ∧
      ∀ d ∈ b'.tagTableColumns o, d ∈ b.tagTableColumns o ∧ d ≠ c := by
  obtain ⟨htags, hfields⟩ := parts_of_dropColumn ho h hdrop
  have htime : o.timeColumn ≠ c := by
    rintro rfl
    rcases dropColumn_eq hdrop with ⟨hrole, _⟩ | ⟨hrole, _⟩ <;> cases ho.timeRole.symm.trans hrole
  have htagId : o.tagIdColumn ≠ c := by
    rintro rfl
    rcases dropColumn_eq hdrop with ⟨hrole, _⟩ | ⟨hrole, _⟩ <;> cases ho.tagIdRole.symm.trans hrole
  refine ⟨fun d hd => ?_, fun d hd => ?_⟩
  · rcases mem_metricColumns.1 hd with rfl | (⟨hkeys, rfl⟩ | ⟨hkeys, hd⟩) | hd
    · exact ⟨mem_metricColumns.2 (.inl rfl), htime⟩
    · exact ⟨mem_metricColumns.2 (.inr (.inl (.inl ⟨hkeys, rfl⟩))), htagId⟩
    · exact ⟨mem_metricColumns.2 (.inr (.inl (.inr ⟨hkeys, (htags d hd).1⟩))), (htags d hd).2⟩
    · exact ⟨mem_metricColumns.2 (.inr (.inr (hfields d hd).1)), (hfields d hd).2⟩
  · rcases List.mem_cons.1 hd with rfl | hd
    · exact ⟨List.mem_cons_self, htagId⟩
    · exact ⟨List.mem_cons_of_mem _ (htags d hd).1, (htags d hd).2⟩

/-! ## One record -/

/-- A batch of one record with a tag and a field, in the default layout. -/
def sample : TableBatch :=
  TableBatch.push .plain { name := "cpu" }
    { name := "cpu"
      tags := KeyMap.empty.insert "host" "a"
      fields := KeyMap.empty.insert "usage" (.int 1)
      timestamp := default }

theorem built_sample : sample.Built .plain := .push _ (.new _)

end TableBatch

end MetricTables
