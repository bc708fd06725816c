import MetricTables.Proofs.Batch

/-!
# What stands in a row

What is written of a record is said here of its values, and not through the functions that write
them: which cell and which JSON value a value becomes, which type the column of a value has,
which tags and fields of a record count, and which cell a column has for a record.

## Main definitions

* `FieldValue.InCell`, `FieldValue.InJson`, `FieldValue.HasType` — a value in a cell of its own and
  in a JSON object, and the type of its column.
* `Options.Reserves` — the names of the fixed columns.
* `Metric.HasTag`, `Metric.HasField` — the tags and the fields of a record that count.
* `Metric.InCell` — what the cell of a column holds for a record.
* `TagColumns`, `FieldColumns` — the columns of some records.

## Main statements

* `inCell_iff`, `inJson_iff`, `hasType_iff` — what is written is what is said.
* `Metric.inCell_tag_iff`, `Metric.inCell_field_iff` — the cells of tags and of fields.
-/

namespace MetricTables

/-! ## Values -/

namespace FieldValue

/-- The cell holds the value. -/
inductive InCell : FieldValue → Cell → Prop
  | int (n : Int64) : InCell (.int n) (.int n)
  | uint (n : UInt64) : InCell (.uint n) (.uint n)
  | float (x : Float) : InCell (.float x) (.float x)
  | bool (b : Bool) : InCell (.bool b) (.bool b)
  | text (s : String) : InCell (.text s) (.text s)

/-- The JSON value stands for the value. There is no JSON number for what is not finite. -/
inductive InJson : FieldValue → Json → Prop
  | int (n : Int64) : InJson (.int n) (.int n.toInt)
  | uint (n : UInt64) : InJson (.uint n) (.int n.toNat)
  | float {x : Float} (hx : x.isFinite = true) : InJson (.float x) (.float x)
  | notFinite {x : Float} (hx : x.isFinite = false) : InJson (.float x) .null
  | bool (b : Bool) : InJson (.bool b) (.bool b)
  | text (s : String) : InJson (.text s) (.text s)

/-- A column of the type is made for the value. -/
inductive HasType : UnsignedType → FieldValue → SqlType → Prop
  | int (u : UnsignedType) (n : Int64) : HasType u (.int n) .bigInt
  | numeric (n : UInt64) : HasType .numeric (.uint n) .numeric
  | uint8 (n : UInt64) : HasType .uint8 (.uint n) .uint8
  | float (u : UnsignedType) (x : Float) : HasType u (.float x) .doublePrecision
  | bool (u : UnsignedType) (b : Bool) : HasType u (.bool b) .boolean
  | text (u : UnsignedType) (s : String) : HasType u (.text s) .text

variable {v : FieldValue}

theorem inCell_iff {c : Cell} : v.InCell c ↔ c = .ofField v := by
  constructor
  · intro h
    cases h <;> rfl
  · rintro rfl
    cases v <;> constructor

/-- A measured value has one form as a member, the one that batches write. -/
theorem inJson_iff {j : Json} : v.InJson j ↔ j = v.toJson := by
  constructor
  · intro h
    cases h <;> simp [toJson, Json.ofFloat, *]
  · rintro rfl
    cases v with
    | float x =>
      by_cases hx : x.isFinite = true
      · simpa [toJson, Json.ofFloat, hx] using InJson.float hx
      · simpa [toJson, Json.ofFloat, hx] using InJson.notFinite (by simpa using hx)
    | int n => exact .int n
    | uint n => exact .uint n
    | bool b => exact .bool b
    | text s => exact .text s

theorem hasType_iff {u : UnsignedType} {t : SqlType} : v.HasType u t ↔ t = v.resolve u := by
  constructor
  · intro h
    cases h <;> rfl
  · rintro rfl
    cases v <;> cases u <;> constructor

end FieldValue

/-- The JSON value is an object with exactly these members, in the order of their keys. -/
inductive Json.IsObject (member : String → Json → Prop) : Json → Prop
  | intro {members : List (String × Json)} (keys : members.Pairwise fun a b => a.1 < b.1)
      (h : ∀ k j, (k, j) ∈ members ↔ member k j) : IsObject member (.object members)

/-- An object is determined by its members. -/
theorem Json.IsObject.unique {member : String → Json → Prop} {i j : Json}
    (hi : i.IsObject member) (hj : j.IsObject member) : i = j := by
  cases hi with
  | @intro is hkeys hi =>
    cases hj with
    | @intro js hkeys' hj =>
      have hmaps : (⟨is, hkeys⟩ : KeyMap String Json) = ⟨js, hkeys'⟩ :=
        KeyMap.ext_mem fun k j => (hi k j).trans (hj k j).symm
      cases hmaps
      rfl

/-- A map is written as an object with a member for each of its entries. -/
theorem Json.isObject_entries {α : Type} (m : KeyMap String α) (f : α → Json) :
    IsObject (fun k j => ∃ v, (k, v) ∈ m.entries ∧ j = f v)
      (.object (m.entries.map fun e => (e.1, f e.2))) := by
  refine .intro (List.pairwise_map.2 m.increasing) fun k j => ?_
  simp only [List.mem_map, Prod.mk.injEq, Prod.exists]
  constructor
  · rintro ⟨_, v, hv, rfl, rfl⟩
    exact ⟨v, hv, rfl⟩
  · rintro ⟨v, hv, rfl⟩
    exact ⟨k, v, hv, rfl, rfl⟩

/-! ## Records -/

/-- A fixed column of the layout has the name. -/
inductive Options.Reserves (o : Options) : String → Prop
  | time : o.Reserves o.timeColumn.name
  | tagId : o.Reserves o.tagIdColumn.name
  | tags (hjson : o.tagsAsJson = true) : o.Reserves "tags"
  | fields (hjson : o.fieldsAsJson = true) : o.Reserves "fields"

/-- The test that batches make is about the names of the fixed columns and about no others. -/
theorem Options.isReserved_iff {o : Options} {name : String} :
    o.isReserved name = true ↔ o.Reserves name := by
  constructor
  · intro h
    simp only [isReserved, Bool.or_eq_true, Bool.and_eq_true, beq_iff_eq] at h
    rcases h with ((rfl | rfl) | ⟨hjson, rfl⟩) | ⟨hjson, rfl⟩
    · exact .time
    · exact .tagId
    · exact .tags hjson
    · exact .fields hjson
  · intro h
    cases h <;> simp [isReserved, tagsJsonName, fieldsJsonName, *]

namespace Metric

variable (o : Options) (m : Metric)

/-- The record has the tag, and no fixed column has its name. -/
def HasTag (k v : String) : Prop := (k, v) ∈ m.tags.entries ∧ ¬ o.Reserves k

/-- The record has the field, and neither a fixed column nor a tag of the record has its name. -/
def HasField (k : String) (v : FieldValue) : Prop :=
  (k, v) ∈ m.fields.entries ∧ ¬ o.Reserves k ∧ ∀ w, (k, w) ∉ m.tags.entries

/-- The tags of a record that no fixed column stands in the way of. -/
def keptTags : Tags := TableBatch.acceptedTags o m.tags

/-- The fields of a record that neither a fixed column nor one of its tags stands in the way
of. -/
def ownFields : Fields := m.fields.filter fun k _ => !o.isReserved k && !m.tags.contains k

/-- The cell of a column holds what the record has for it. -/
inductive InCell (c : Column) : Cell → Prop
  | time (hrole : c.role = .time) : InCell c (.timestamp m.timestamp)
  | tagId (hrole : c.role = .tagId) {tags : Tags}
      (htags : ∀ k v, (k, v) ∈ tags.entries ↔ m.HasTag o k v) : InCell c (.int tags.id)
  | tags (hrole : c.role = .tag) (hjson : o.tagsAsJson = true) {j : Json}
      (hj : j.IsObject fun k i => ∃ v, m.HasTag o k v ∧ i = .text v) : InCell c (.json j)
  | tag (hrole : c.role = .tag) (hjson : o.tagsAsJson = false) {v : String}
      (hv : m.HasTag o c.name v) : InCell c (.text v)
  | noTag (hrole : c.role = .tag) (hjson : o.tagsAsJson = false)
      (hv : ∀ v, ¬ m.HasTag o c.name v) : InCell c .null
  | fields (hrole : c.role = .field) (hjson : o.fieldsAsJson = true) {j : Json}
      (hj : j.IsObject fun k i => ∃ v, m.HasField o k v ∧ v.InJson i) : InCell c (.json j)
  | field (hrole : c.role = .field) (hjson : o.fieldsAsJson = false) {v : FieldValue} {x : Cell}
      (hv : m.HasField o c.name v) (hx : v.InCell x) : InCell c x
  | noField (hrole : c.role = .field) (hjson : o.fieldsAsJson = false)
      (hv : ∀ v, ¬ m.HasField o c.name v) : InCell c .null

variable {o m} {k : String} {c : Column}

theorem contains_keptTags : (m.keptTags o).contains k = (m.tags.contains k && !o.isReserved k) :=
  KeyMap.contains_filter m.tags (fun k => !o.isReserved k) k

theorem find?_ownFields_eq_some {v : FieldValue} : (m.ownFields o).find? k = some v ↔
    m.fields.find? k = some v ∧ o.isReserved k = false ∧ m.tags.contains k = false := by
  rw [ownFields, KeyMap.find?_filter, Option.filter_eq_some_iff]
  simp

/-- The tags that are kept are those that count. -/
theorem find?_keptTags_iff {v : String} : (m.keptTags o).find? k = some v ↔ m.HasTag o k v := by
  rw [keptTags, TableBatch.acceptedTags, KeyMap.find?_filter, Option.filter_eq_some_iff,
    KeyMap.find?_eq_some_iff, HasTag, ← Options.isReserved_iff]
  simp

/-- A record has no tag of the name exactly if none is found. -/
theorem contains_tags_eq_false : m.tags.contains k = false ↔ ∀ v, (k, v) ∉ m.tags.entries := by
  simp only [← KeyMap.find?_eq_some_iff, KeyMap.contains, Option.isSome_eq_false_iff,
    Option.isNone_iff_eq_none, Option.eq_none_iff_forall_ne_some, ne_eq]

/-- The fields of its own that a record brings are those that count. -/
theorem find?_ownFields_iff {v : FieldValue} :
    (m.ownFields o).find? k = some v ↔ m.HasField o k v := by
  rw [find?_ownFields_eq_some, contains_tags_eq_false, KeyMap.find?_eq_some_iff, HasField,
    ← Options.isReserved_iff, Bool.not_eq_true]

theorem contains_keptTags_iff : (m.keptTags o).contains k = true ↔ ∃ v, m.HasTag o k v := by
  simp only [KeyMap.contains_iff, find?_keptTags_iff]

theorem find?_ownFields_eq_none : (m.ownFields o).find? k = none ↔ ∀ v, ¬ m.HasField o k v := by
  simp only [Option.eq_none_iff_forall_ne_some, ne_eq, find?_ownFields_iff]

/-- The tags that count make up one tag set. -/
theorem eq_keptTags_iff {tags : Tags} :
    tags = m.keptTags o ↔ ∀ k v, (k, v) ∈ tags.entries ↔ m.HasTag o k v := by
  have hkept : ∀ k v, (k, v) ∈ (m.keptTags o).entries ↔ m.HasTag o k v := fun k v => by
    rw [← KeyMap.find?_eq_some_iff, find?_keptTags_iff]
  constructor
  · rintro rfl
    exact hkept
  · exact fun h => KeyMap.ext_mem fun k v => (h k v).trans (hkept k v).symm

/-- The tags that count make up one object. -/
theorem isObject_keptTags :
    (m.keptTags o).toJson.IsObject fun k i => ∃ v, m.HasTag o k v ∧ i = .text v := by
  have hobject := Json.isObject_entries (m.keptTags o) Json.text
  simp only [eq_keptTags_iff.1 rfl] at hobject
  exact hobject

/-- The fields that count make up one object. -/
theorem isObject_ownFields :
    (m.ownFields o).toJson.IsObject fun k i => ∃ v, m.HasField o k v ∧ v.InJson i := by
  have hobject := Json.isObject_entries (m.ownFields o) FieldValue.toJson
  simp only [← KeyMap.find?_eq_some_iff, find?_ownFields_iff, ← FieldValue.inJson_iff] at hobject
  exact hobject

variable {x : Cell}

theorem inCell_time_iff (hrole : c.role = .time) :
    m.InCell o c x ↔ x = .timestamp m.timestamp := by
  constructor
  · intro h
    cases h with
    | time => rfl
    | _ hrole' => cases hrole.symm.trans hrole'
  · rintro rfl
    exact .time hrole

theorem inCell_tagId_iff (hrole : c.role = .tagId) :
    m.InCell o c x ↔ x = .int (m.keptTags o).id := by
  constructor
  · intro h
    cases h with
    | tagId _ htags => rw [eq_keptTags_iff.2 htags]
    | _ hrole' => cases hrole.symm.trans hrole'
  · rintro rfl
    exact .tagId hrole (eq_keptTags_iff.1 rfl)

/-- The cell of a tag column is what the record has for it, and nothing else is. -/
theorem inCell_tag_iff (hrole : c.role = .tag) :
    m.InCell o c x ↔ x = TableBatch.tagCell o c (m.keptTags o) := by
  constructor
  · intro h
    cases h with
    | tags _ hjson hj => rw [TableBatch.tagCell, if_pos hjson, hj.unique isObject_keptTags]
    | tag _ hjson hv => simp [TableBatch.tagCell, hjson, find?_keptTags_iff.2 hv]
    | noTag _ hjson hnone =>
      have hfind : (m.keptTags o).find? c.name = none :=
        Option.eq_none_iff_forall_ne_some.2 fun v hv => hnone v (find?_keptTags_iff.1 hv)
      simp [TableBatch.tagCell, hjson, hfind]
    | _ hrole' => cases hrole.symm.trans hrole'
  · rintro rfl
    unfold TableBatch.tagCell
    split
    next hjson => exact .tags hrole hjson isObject_keptTags
    next hjson =>
      have hjson : o.tagsAsJson = false := by simpa using hjson
      split
      next v hv => exact .tag hrole hjson (find?_keptTags_iff.1 hv)
      next hnone =>
        refine .noTag hrole hjson fun v hv => ?_
        cases hnone.symm.trans (find?_keptTags_iff.2 hv)

/-- The cell of a field column is what the record has for it, and nothing else is. -/
theorem inCell_field_iff (hrole : c.role = .field) :
    m.InCell o c x ↔ x = TableBatch.fieldCell o c (m.ownFields o) := by
  constructor
  · intro h
    cases h with
    | fields _ hjson hj => rw [TableBatch.fieldCell, if_pos hjson, hj.unique isObject_ownFields]
    | field _ hjson hv hx =>
      simp [TableBatch.fieldCell, hjson, find?_ownFields_iff.2 hv, FieldValue.inCell_iff.1 hx]
    | noField _ hjson hnone =>
      simp [TableBatch.fieldCell, hjson, find?_ownFields_eq_none.2 hnone]
    | _ hrole' => cases hrole.symm.trans hrole'
  · rintro rfl
    unfold TableBatch.fieldCell
    split
    next hjson => exact .fields hrole hjson isObject_ownFields
    next hjson =>
      have hjson : o.fieldsAsJson = false := by simpa using hjson
      split
      next v hv =>
        exact .field hrole hjson (find?_ownFields_iff.1 hv) (FieldValue.inCell_iff.2 rfl)
      next hnone => exact .noField hrole hjson (find?_ownFields_eq_none.1 hnone)

end Metric

/-- A relation that determines each item of a list determines the list. -/
theorem forall₂_iff_eq_map {α β : Type} {R : α → β → Prop} {f : α → β} {l : List α} {l' : List β}
    (h : ∀ a ∈ l, ∀ b, R a b ↔ b = f a) : List.Forall₂ R l l' ↔ l' = l.map f := by
  induction l generalizing l' with
  | nil => rw [List.forall₂_nil_left_iff, List.map_nil]
  | cons a l ih =>
    have hrest : ∀ bs, List.Forall₂ R l bs ↔ bs = l.map f := fun bs =>
      ih fun a ha => h a (.tail _ ha)
    rw [List.forall₂_cons_left_iff, List.map_cons]
    constructor
    · rintro ⟨b, bs, hb, hbs, rfl⟩
      rw [(h a (.head _) b).1 hb, (hrest bs).1 hbs]
    · rintro rfl
      exact ⟨_, _, (h a (.head _) _).2 rfl, (hrest _).2 rfl, rfl⟩

/-! ## Columns -/

/-- The columns of the tags of some records: one for all of them if they are folded, and otherwise
one for each tag that counts for some record. -/
structure TagColumns (o : Options) (ms : List Metric) (cs : List Column) : Prop where
  folded : o.tagsAsJson = true → cs = [⟨"tags", .tag, .jsonb⟩]
  names : (cs.map Column.name).Nodup
  mem_iff : o.tagsAsJson = false → ∀ c, c ∈ cs ↔
    c.role = .tag ∧ c.type = .text ∧ ∃ m ∈ ms, ∃ v, m.HasTag o c.name v

/-- The columns of the fields of some records: one for all of them if they are folded, and
otherwise one for each field that counts for some record, with the type that the first such record
gives it. If neither tags nor fields are folded, a tag of any record takes the place of a field. -/
structure FieldColumns (o : Options) (ms : List Metric) (cs : List Column) : Prop where
  folded : o.fieldsAsJson = true → cs = [⟨"fields", .field, .jsonb⟩]
  names : (cs.map Column.name).Nodup
  mem_iff : o.fieldsAsJson = false → ∀ c, c ∈ cs ↔ c.role = .field ∧
    (o.tagsAsJson = false → ∀ m ∈ ms, ∀ v, (c.name, v) ∉ m.tags.entries) ∧
    ∃ before m after v, ms = before ++ m :: after ∧ m.HasField o c.name v ∧
      (∀ m' ∈ before, ∀ v', ¬ m'.HasField o c.name v') ∧ v.HasType o.unsignedType c.type

end MetricTables
