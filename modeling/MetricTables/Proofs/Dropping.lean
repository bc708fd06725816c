import MetricTables.Proofs.TagRows

/-!
# Giving up many columns

What a batch is after it gave up a list of columns depends on the names in the list, within
their roles, and neither on their order nor on repetitions. Columns that are listed are gone,
and with a tag the records that carry it; of every other row the cells under the other columns
are left. Only the columns that were given up are noted in the order in which that was done.

## Main definitions

* `Column.listed` — whether a column is one of a list.
* `TableBatch.spares` — whether a tag set has none of the tag columns that are given up.
* `restrict` — the cells of a row under some of the columns.
* `TableBatch.Drops` — how a batch that gave up columns goes with the batch before.

## Main statements

* `TableBatch.drops_dropColumn`, `TableBatch.Drops.trans` — one column, and one list after another.
* `TableBatch.dropColumns_exact` — what many columns cost, in any order.
-/

namespace MetricTables

/-! ## Columns of a list -/

namespace Column

/-- Whether a column is one of a list: names count within their role, and types do not. -/
def listed (cs : List Column) (c : Column) : Bool :=
  cs.any fun d => d.role == c.role && d.name == c.name

variable {cs cs' : List Column} {c d : Column}

@[simp] theorem listed_nil : listed [] c = false := rfl

@[simp] theorem listed_append : listed (cs ++ cs') c = (listed cs c || listed cs' c) :=
  List.any_append

theorem listed_singleton : listed [d] c = (d.role == c.role && d.name == c.name) := by
  simp [listed]

/-- The order of a list and its repetitions do not matter. -/
theorem listed_congr (h : ∀ d, d ∈ cs' ↔ d ∈ cs) : listed cs' = listed cs := by
  funext c
  rw [Bool.eq_iff_iff]
  simp only [listed, List.any_eq_true, h]

theorem listed_of_role (h : ∀ d ∈ cs, d.role ≠ c.role) : listed cs c = false := by
  simp only [listed, List.any_eq_false, Bool.and_eq_true, beq_iff_eq, not_and]
  exact fun d hd hrole => absurd hrole (h d hd)

end Column

namespace ColumnList

variable {l : ColumnList} {c : Column} {name : String}

/-- No other column has the name of the first one. -/
theorem ne_of_nodup_cons {cs : List Column} (hl : ((c :: cs).map Column.name).Nodup) :
    ∀ d ∈ cs, d.name ≠ c.name := by
  intro d hd hname
  exact (List.nodup_cons.1 hl).1 (hname ▸ List.mem_map.2 ⟨d, hd, rfl⟩)

theorem columns_erase (hl : (l.columns.map Column.name).Nodup) :
    (l.erase name).columns = l.columns.filter fun d => !(d.name == name) := by
  obtain ⟨cs⟩ := l
  induction cs with
  | nil => rfl
  | cons c cs ih =>
    by_cases hname : c.name = name
    · subst hname
      have hothers : cs.filter (fun d => !(d.name == c.name)) = cs :=
        List.filter_eq_self.2 fun d hd => by simpa using ne_of_nodup_cons hl d hd
      simp [erase, hothers]
    · have hrest : cs.eraseP (·.name == name) = cs.filter fun d => !(d.name == name) :=
        ih (List.nodup_cons.1 hl).2
      simp [erase, hname, hrest]

theorem filter_name (hl : (l.columns.map Column.name).Nodup) :
    l.columns.filter (·.name == name) = (l.find? name).toList := by
  obtain ⟨cs⟩ := l
  induction cs with
  | nil => rfl
  | cons c cs ih =>
    by_cases hname : c.name = name
    · subst hname
      have hothers : cs.filter (·.name == c.name) = [] :=
        List.filter_eq_nil_iff.2 fun d hd => by simpa using ne_of_nodup_cons hl d hd
      simp [find?, hothers]
    · have hrest : cs.filter (·.name == name) = (cs.find? (·.name == name)).toList :=
        ih (List.nodup_cons.1 hl).2
      simp [find?, hname, hrest]

/-- Of columns of one role, the name of such a column lists the one that is found under it. -/
theorem filter_listed (hl : (l.columns.map Column.name).Nodup)
    (hrole : ∀ d ∈ l.columns, d.role = c.role) :
    l.columns.filter (Column.listed [c]) = (l.find? c.name).toList ∧
      (l.columns.filter fun d => !Column.listed [c] d) = (l.erase c.name).columns := by
  have hlisted : ∀ d ∈ l.columns, Column.listed [c] d = (d.name == c.name) := by
    intro d hd
    rw [Column.listed_singleton, hrole d hd, Bool.beq_comm (a := c.name)]
    simp
  rw [← filter_name hl, columns_erase hl]
  exact ⟨List.filter_congr hlisted, List.filter_congr fun d hd => by rw [hlisted d hd]⟩

end ColumnList

/-- What satisfies one of two tests, in two portions. -/
theorem filter_or_perm {α : Type} (p q : α → Bool) (l : List α) :
    (l.filter p ++ (l.filter fun a => !p a).filter q).Perm (l.filter fun a => p a || q a) := by
  have hfirst : l.filter p = (l.filter fun a => p a || q a).filter p := by
    rw [List.filter_filter]
    exact List.filter_congr fun a _ => by cases p a <;> rfl
  have hsecond : (l.filter fun a => !p a).filter q =
      (l.filter fun a => p a || q a).filter fun a => !p a := by
    rw [List.filter_filter, List.filter_filter]
    exact List.filter_congr fun a _ => by cases p a <;> simp
  rw [hfirst, hsecond]
  exact List.filter_append_perm _ _

/-! ## Cells under some columns -/

def restrict (keep : Column → Bool) (columns : List Column) (row : List Cell) : List Cell :=
  ((columns.zip row).filter fun e => keep e.1).map (·.2)

theorem restrict_map (keep : Column → Bool) (columns : List Column) (f : Column → Cell) :
    restrict keep columns (columns.map f) = (columns.filter keep).map f := by
  induction columns with
  | nil => rfl
  | cons c cs ih =>
    rw [restrict] at ih ⊢
    rw [List.map_cons, List.zip_cons_cons, List.filter_cons, List.filter_cons]
    by_cases hc : keep c = true
    · simp [hc, ih]
    · simp [hc, ih]

/-! ## A batch that gave up columns -/

namespace TableBatch

variable {o : Options} {b b₁ b' : TableBatch} {c : Column} {cs cs' : List Column}

/-- Whether a tag set has none of the tag columns that are given up. -/
def spares (o : Options) (b : TableBatch) (cs : List Column) (tags : Tags) : Bool :=
  (b.tagPart o).all fun c => !(Column.listed cs c && tags.contains c.name)

/-- How a batch that gave up columns goes with the batch before. -/
structure Drops (o : Options) (b : TableBatch) (cs : List Column) (b' : TableBatch) : Prop where
  tagPart : b'.tagPart o = (b.tagPart o).filter fun c => !Column.listed cs c
  fieldPart : b'.fieldPart o = (b.fieldPart o).filter fun c => !Column.listed cs c
  entries : b'.entries = b.entries
  tagSets : b'.tagSets = b.tagSets
  isKept : ∀ id tags, b.tagSets.find? id = some tags →
    b'.isKept id = (b.isKept id && b.spares o cs tags)
  dropped : ∃ lost, b'.dropped = b.dropped ++ lost ∧
    lost.Perm ((b.tagPart o ++ b.fieldPart o).filter (Column.listed cs))

theorem drops_nil (o : Options) (b : TableBatch) : Drops o b [] b where
  tagPart := by simp
  fieldPart := by simp
  entries := rfl
  tagSets := rfl
  isKept _ _ _ := by simp [spares]
  dropped := ⟨[], by simp⟩

/-- What two lists spare one after the other. -/
theorem spares_append (htags : b₁.tagPart o = (b.tagPart o).filter fun c => !Column.listed cs c)
    (tags : Tags) : b.spares o (cs ++ cs') tags = (b.spares o cs tags && b₁.spares o cs' tags) := by
  rw [Bool.eq_iff_iff, Bool.and_eq_true]
  simp only [spares, htags, List.all_filter, List.all_eq_true, Column.listed_append]
  rw [← forall₂_and]
  refine forall₂_congr fun c _ => ?_
  cases Column.listed cs c <;> cases tags.contains c.name <;> simp

/-- Columns may be given up one after the other or all at once. -/
theorem Drops.trans (h : Drops o b cs b₁) (h' : Drops o b₁ cs' b') : Drops o b (cs ++ cs') b' where
  tagPart := by
    rw [h'.tagPart, h.tagPart, List.filter_filter]
    exact List.filter_congr fun c _ => by simp [Bool.and_comm]
  fieldPart := by
    rw [h'.fieldPart, h.fieldPart, List.filter_filter]
    exact List.filter_congr fun c _ => by simp [Bool.and_comm]
  entries := h'.entries.trans h.entries
  tagSets := h'.tagSets.trans h.tagSets
  isKept id tags hfind := by
    rw [h'.isKept id tags (h.tagSets ▸ hfind), h.isKept id tags hfind, Bool.and_assoc,
      spares_append h.tagPart]
  dropped := by
    obtain ⟨lost, hlost, hperm⟩ := h.dropped
    obtain ⟨lost', hlost', hperm'⟩ := h'.dropped
    refine ⟨lost ++ lost', by rw [hlost', hlost, List.append_assoc], ?_⟩
    rw [h.tagPart, h.fieldPart, ← List.filter_append] at hperm'
    rw [show Column.listed (cs ++ cs') = fun c => Column.listed cs c || Column.listed cs' c from
      funext fun _ => Column.listed_append]
    exact (hperm.append hperm').trans (filter_or_perm _ _ _)

/-- Columns of other roles stay. -/
theorem filter_listed_of_role {l : List Column} (hrole : ∀ d ∈ l, c.role ≠ d.role) :
    l.filter (Column.listed [c]) = [] ∧ (l.filter fun d => !Column.listed [c] d) = l := by
  have hlisted : ∀ d ∈ l, Column.listed [c] d = false := fun d hd =>
    Column.listed_of_role fun e he => List.mem_singleton.1 he ▸ hrole d hd
  exact ⟨List.filter_eq_nil_iff.2 fun d hd => by simp [hlisted d hd],
    List.filter_eq_self.2 fun d hd => by simp [hlisted d hd]⟩

/-- A tag set is spared if it has none of the listed columns that are there. -/
theorem spares_eq_all (b : TableBatch) (cs : List Column) (tags : Tags) :
    b.spares o cs tags =
      ((b.tagPart o).filter (Column.listed cs)).all fun c => !tags.contains c.name := by
  rw [spares, List.all_filter]
  congr 1
  funext c
  cases Column.listed cs c <;> simp

/-- The rows are those of before without the cells of the tag. The records that carry it are gone.
-/
theorem drops_dropTag (hb : b.Valid o) (hrole : c.role = .tag) (hjson : o.tagsAsJson = false) :
    Drops o b [c] (b.dropTag c.name) := by
  obtain ⟨hgone, hleft⟩ := ColumnList.filter_listed hb.tagNames (c := c) fun d hd => by
    rw [hrole, (hb.tags d hd).1]
  obtain ⟨hnone, hall⟩ := filter_listed_of_role (c := c) (l := b.fieldPart o) fun d hd => by
    rw [hrole, role_of_mem_fieldPart hb hd]
    decide
  have htagPart : b.tagPart o = b.tagColumns.columns := by simp [tagPart, hjson]
  rw [← htagPart] at hgone hleft
  unfold dropTag
  cases hfind : b.tagColumns.find? c.name with
  | none =>
    rw [hfind] at hgone
    refine ⟨?_, hall.symm, rfl, rfl, fun id tags _ => ?_, [], (List.append_nil _).symm, ?_⟩
    · refine (List.filter_eq_self.2 fun d hd => ?_).symm
      simpa using List.filter_eq_nil_iff.1 hgone d hd
    · simp [spares_eq_all, hgone]
    · rw [List.filter_append, hgone, hnone]
      exact .refl _
  | some d =>
    have hname : d.name = c.name := ((ColumnList.find?_eq_some_iff hb.tagNames).1 hfind).2
    rw [hfind] at hgone
    refine ⟨?_, hall.symm, rfl, rfl, fun id tags htags => ?_, [d], rfl, ?_⟩
    · rw [hleft]
      simp [tagPart, hjson]
    · have hcolumn : b.tagColumns.contains c.name = true := by
        rw [ColumnList.contains_eq_isSome, hfind]
        rfl
      have hkept := isKept_dropTag hcolumn htags
      rw [dropTag, hfind] at hkept
      rw [hkept, spares_eq_all, hgone]
      simp [hname]
    · rw [List.filter_append, hgone, hnone]
      exact .refl _

/-- The rows are those of before without the cells of the field. No record is lost. -/
theorem drops_dropField (hb : b.Valid o) (hrole : c.role = .field)
    (hjson : o.fieldsAsJson = false) :
    Drops o b [c] (b.dropField c.name) := by
  obtain ⟨hgone, hleft⟩ := ColumnList.filter_listed hb.fieldNames (c := c) fun d hd => by
    rw [hrole, (hb.fields d hd).1]
  obtain ⟨hnone, hall⟩ := filter_listed_of_role (c := c) (l := b.tagPart o) fun d hd => by
    rw [hrole, role_of_mem_tagPart hb hd]
    decide
  have hfieldPart : b.fieldPart o = b.fieldColumns.columns := by simp [fieldPart, hjson]
  rw [← hfieldPart] at hgone hleft
  have hspares : ∀ tags, b.spares o [c] tags = true := fun tags => by simp [spares_eq_all, hnone]
  unfold dropField
  cases hfind : b.fieldColumns.find? c.name with
  | none =>
    rw [hfind] at hgone
    refine ⟨hall.symm, ?_, rfl, rfl, fun id tags _ => ?_, [], (List.append_nil _).symm, ?_⟩
    · refine (List.filter_eq_self.2 fun d hd => ?_).symm
      simpa using List.filter_eq_nil_iff.1 hgone d hd
    · rw [hspares, Bool.and_true]
    · rw [List.filter_append, hgone, hnone]
      exact .refl _
  | some d =>
    rw [hfind] at hgone
    refine ⟨hall.symm, ?_, rfl, rfl, fun id tags _ => ?_, [d], rfl, ?_⟩
    · rw [hleft]
      simp [fieldPart, hjson]
    · rw [hspares, Bool.and_true]
      rfl
    · rw [List.filter_append, hgone, hnone]
      exact .refl _

/-- Giving up one column costs what a list of it says. -/
theorem drops_dropColumn (hb : b.Valid o) (hdrop : b.dropColumn o c = .ok b') :
    Drops o b [c] b' := by
  rcases dropColumn_eq hdrop with ⟨hrole, hjson, rfl⟩ | ⟨hrole, hjson, rfl⟩
  · exact drops_dropTag hb hrole hjson
  · exact drops_dropField hb hrole hjson

/-- Columns that are not critical are given up, all of them. -/
theorem drops_foldlM (hb : b.Valid o) (hcs : ∀ c ∈ cs, isUndroppable o c = false) :
    ∃ b', cs.foldlM (dropColumn o) b = .ok b' ∧ Drops o b cs b' ∧ b'.Valid o := by
  induction cs generalizing b with
  | nil => exact ⟨b, rfl, drops_nil o b, hb⟩
  | cons c cs ih =>
    rcases dropColumn_cases o b c with ⟨hc, _⟩ | ⟨_, b₁, hdrop⟩
    · cases hc.symm.trans (hcs c List.mem_cons_self)
    · obtain ⟨b', hrest, hdrops, hb'⟩ :=
        ih (valid_dropColumn hb hdrop) fun d hd => hcs d (List.mem_cons_of_mem _ hd)
      refine ⟨b', ?_, (drops_dropColumn hb hdrop).trans hdrops, hb'⟩
      rw [List.foldlM_cons, hdrop]
      exact hrest

/-! ## What is left of a batch of records -/

theorem not_listed_of_droppable (hcs : ∀ c ∈ cs, isUndroppable o c = false)
    (hc : isUndroppable o c = true) : Column.listed cs c = false := by
  refine Column.listed_of_role fun d hd hrole => ?_
  have hdroppable := hcs d hd
  rw [isUndroppable, hrole, ← isUndroppable, hc] at hdroppable
  cases hdroppable

/-- Among the columns that are given up, tags of a record are those that it keeps. -/
theorem spares_keptTags (hb : b.Valid o) (hcs : ∀ c ∈ cs, isUndroppable o c = false) (m : Metric) :
    b.spares o cs (m.keptTags o) = b.spares o cs m.tags := by
  rw [spares_eq_all, spares_eq_all, Bool.eq_iff_iff, List.all_eq_true, List.all_eq_true]
  refine forall₂_congr fun c hc => ?_
  obtain ⟨hmem, hlisted⟩ := List.mem_filter.1 hc
  have hdroppable : isUndroppable o c = false := by
    by_contra hnot
    rw [not_listed_of_droppable hcs (by simpa using hnot)] at hlisted
    cases hlisted
  have hjson : o.tagsAsJson = false := by
    rwa [isUndroppable, role_of_mem_tagPart hb hmem] at hdroppable
  have hfree : o.isReserved c.name = false :=
    (hb.tags c (by simpa [tagPart, hjson] using hmem)).2.2
  rw [Metric.contains_keptTags, hfree]
  simp

/-- What is left of the batch of some records without the columns of a list: the records that have
none of the tag columns that went, in their order, and of their rows the cells under the
columns that stay. -/
structure Pruned (o : Options) (ms : List Metric) (cs : List Column) (b b' : TableBatch) :
    Prop where
  rowPerRecord : (b.rows o).length = ms.length
  rowPerTagSet : (b.tagRows o).length = b.tagSets.entries.length
  tagPart : b'.tagPart o = (b.tagPart o).filter fun c => !Column.listed cs c
  fieldPart : b'.fieldPart o = (b.fieldPart o).filter fun c => !Column.listed cs c
  metricColumns : b'.metricColumns o = (b.metricColumns o).filter fun c => !Column.listed cs c
  tagTableColumns : b'.tagTableColumns o = (b.tagTableColumns o).filter fun c => !Column.listed cs c
  rows : b'.rows o = ((ms.zip (b.rows o)).filter fun e => b.spares o cs e.1.tags).map fun e =>
    restrict (fun c => !Column.listed cs c) (b.metricColumns o) e.2
  recordCount : b'.recordCount = (ms.filter fun m => b.spares o cs m.tags).length
  tagRows : b'.tagRows o =
    ((b.tagSets.entries.zip (b.tagRows o)).filter fun e => b.spares o cs e.1.2).map fun e =>
      restrict (fun c => !Column.listed cs c) (b.tagTableColumns o) e.2
  dropped : b'.dropped.Perm ((b.tagPart o ++ b.fieldPart o).filter (Column.listed cs))

/-- Rows that are kept, without some of their cells. -/
theorem map_restrict {α : Type} {l : List α} (p : α → Bool) {keep : Column → Bool}
    {columns : List Column} {row row' : α → List Cell}
    (h : ∀ a, restrict keep columns (row a) = row' a) :
    (((l.zip (l.map row)).filter fun e => p e.1).map fun e => restrict keep columns e.2) =
      (l.filter p).map row' := by
  have hzip : l.zip (l.map row) = l.map fun a => (a, row a) := by
    have hmap := List.zip_map' (f := id) (g := row) (l := l)
    rwa [List.map_id] at hmap
  rw [hzip, List.filter_map, List.map_map]
  exact List.map_congr_left fun a _ => h a

section Pushes

variable {ms : List Metric} (hdrops : Drops o b cs b') (hcs : ∀ c ∈ cs, isUndroppable o c = false)
include hdrops

include hcs in
/-- Both tables lose exactly the columns that are given up. -/
theorem columns_drops (ho : o.HasRoles) :
    b'.metricColumns o = (b.metricColumns o).filter (fun c => !Column.listed cs c) ∧
      b'.tagTableColumns o = (b.tagTableColumns o).filter fun c => !Column.listed cs c := by
  have htime : Column.listed cs o.timeColumn = false :=
    not_listed_of_droppable hcs (by simp [isUndroppable, ho.time])
  have htagId : Column.listed cs o.tagIdColumn = false :=
    not_listed_of_droppable hcs (by simp [isUndroppable, ho.tagId])
  refine ⟨?_, by simp [tagTableColumns, hdrops.tagPart, htagId]⟩
  unfold metricColumns
  rw [hdrops.tagPart, hdrops.fieldPart]
  cases o.tagsAsForeignKeys <;> simp [htime, htagId]

variable (hderived : Derived o ms b)
include hderived

/-- The tag sets that are left are those without the tags that went. -/
theorem keptTagSets_drops :
    b'.keptTagSets.entries = b.tagSets.entries.filter fun e => b.spares o cs e.2 := by
  rw [keptTagSets, hdrops.tagSets]
  refine List.filter_congr fun e he => ?_
  have hkept := hdrops.isKept _ _ (KeyMap.find?_eq_some_iff.2 he)
  have hnew : b.isKept e.1 = true := by simp [isKept, hderived.lostTagSets]
  rwa [hnew, Bool.true_and] at hkept

include hcs in
/-- If keys tell tag sets apart, the records that are left are those without the tags that went. -/
theorem kept_drops (hb : b.Valid o) (hstep : InStep o ms b)
    (hkeys : ∀ m ∈ ms, ∀ m' ∈ ms, (m.keptTags o).id = (m'.keptTags o).id →
      m.keptTags o = m'.keptTags o) :
    b'.kept = (ms.filter fun m => b.spares o cs m.tags).map (entryAmong o ms) := by
  rw [kept, hdrops.entries, hderived.entries, List.filter_map]
  refine congrArg (List.map _) (List.filter_congr fun m hm => ?_)
  have hkept := hdrops.isKept _ _ (hstep.find?_tagSets hkeys hm)
  have hnew : b.isKept (m.keptTags o).id = true := by simp [isKept, hderived.lostTagSets]
  rw [hnew, Bool.true_and, spares_keptTags hb hcs] at hkept
  exact hkept

include hcs in
/-- If keys tell tag sets apart, giving up columns prunes the batch of some records. -/
theorem pruned_of_drops (ho : o.HasRoles) (hb : b.Valid o) (hstep : InStep o ms b)
    (hkeys : ∀ m ∈ ms, ∀ m' ∈ ms, (m.keptTags o).id = (m'.keptTags o).id →
      m.keptTags o = m'.keptTags o) : Pruned o ms cs b b' := by
  obtain ⟨hmetric, htagTable⟩ := columns_drops hdrops hcs ho
  have hleft := kept_drops hdrops hcs hderived hb hstep hkeys
  have hall : ∀ e, b.isKept e = true := fun e => by simp [isKept, hderived.lostTagSets]
  have hrows : b.rows o =
      ms.map fun m => (b.metricColumns o).map fun c => cell o c (entryAmong o ms m) := by
    rw [rows, kept, List.filter_eq_self.2 fun e _ => hall e.tagId, hderived.entries, List.map_map]
    rfl
  have htagRows : b.tagRows o = b.tagSets.entries.map fun e =>
      .int e.1 :: (b.tagPart o).map fun c => tagCell o c e.2 := by
    have hsets : b.keptTagSets.entries = b.tagSets.entries :=
      List.filter_eq_self.2 fun e _ => hall e.1
    rw [tagRows, hsets]
  have htagId : Column.listed cs o.tagIdColumn = false :=
    not_listed_of_droppable hcs (by simp [isUndroppable, ho.tagId])
  refine ⟨by rw [hrows, List.length_map], by rw [htagRows, List.length_map], hdrops.tagPart,
    hdrops.fieldPart, hmetric, htagTable, ?_, ?_, ?_, ?_⟩
  · rw [hrows, map_restrict (fun m : Metric => b.spares o cs m.tags) fun m => restrict_map _ _ _,
      rows, hleft, hmetric, List.map_map]
    rfl
  · rw [recordCount, hleft, List.length_map]
  · have hrow : ∀ e : Int64 × Tags,
        restrict (fun c => !Column.listed cs c) (b.tagTableColumns o)
          (.int e.1 :: (b.tagPart o).map fun c => tagCell o c e.2) =
        .int e.1 :: (b'.tagPart o).map fun c => tagCell o c e.2 := by
      intro e
      rw [hdrops.tagPart, ← restrict_map]
      simp [restrict, tagTableColumns, htagId]
    rw [htagRows, map_restrict (fun e : Int64 × Tags => b.spares o cs e.2) hrow, tagRows,
      keptTagSets_drops hdrops hderived]
  · obtain ⟨lost, hlost, hperm⟩ := hdrops.dropped
    rwa [hlost, hderived.dropped, List.nil_append]

end Pushes

/-- Giving up columns, none of which is critical, takes the listed columns from the batch of some
records and nothing else. If keys tell tag sets apart, it costs the records that have one of the
tags that went, and every other row the cells under the columns that went. In which order the
columns are given up, and how often, matters for nothing but the order in which they are noted. -/
theorem dropColumns_exact (ho : o.HasRoles) (name : String) {ms : List Metric}
    (hkeys : ∀ m ∈ ms, ∀ m' ∈ ms, (m.keptTags o).id = (m'.keptTags o).id →
      m.keptTags o = m'.keptTags o)
    (hb : ms.foldl (push o) { name } = b)
    (hcs : ∀ c ∈ cs, ∃ b₁, b.dropColumn o c = .ok b₁) :
    ∃ b', cs.foldlM (dropColumn o) b = .ok b' ∧ Pruned o ms cs b b' ∧
      ∀ cs' : List Column, (∀ c, c ∈ cs' ↔ c ∈ cs) → ∃ b'', cs'.foldlM (dropColumn o) b = .ok b'' ∧
        b''.metricColumns o = b'.metricColumns o ∧ b''.tagTableColumns o = b'.tagTableColumns o ∧
        b''.rows o = b'.rows o ∧ b''.recordCount = b'.recordCount ∧ b''.tagRows o = b'.tagRows o ∧
        b''.dropped.Perm b'.dropped := by
  obtain ⟨hderived, hvalid, _⟩ := derived_foldl o name ms
  have hstep : InStep o ms (ms.foldl (push o) { name }) := by
    have hafter := (inStep_after o name (ms.map .push)).1
    rwa [after, List.foldl_map, pushed, List.filterMap_map,
      show Action.record? ∘ Action.push = some from rfl, List.filterMap_some] at hafter
  rw [hb] at hderived hvalid hstep
  have hdroppable : ∀ c ∈ cs, isUndroppable o c = false := by
    intro c hc
    obtain ⟨b₁, hdrop⟩ := hcs c hc
    rcases dropColumn_cases o b c with ⟨_, herror⟩ | ⟨hc, _⟩
    · cases herror.symm.trans hdrop
    · exact hc
  have hpruned : ∀ cs, (∀ c ∈ cs, isUndroppable o c = false) →
      ∃ b', cs.foldlM (dropColumn o) b = .ok b' ∧ Pruned o ms cs b b' := by
    intro cs hcs
    obtain ⟨b', hrun, hdrops, _⟩ := drops_foldlM hvalid hcs
    exact ⟨b', hrun, pruned_of_drops hdrops hcs hderived ho hvalid hstep hkeys⟩
  obtain ⟨b', hrun, h⟩ := hpruned cs hdroppable
  refine ⟨b', hrun, h, fun cs' hsame => ?_⟩
  obtain ⟨b'', hrun', h'⟩ := hpruned cs' fun c hc => hdroppable c ((hsame c).1 hc)
  have hlisted : Column.listed cs' = Column.listed cs := Column.listed_congr hsame
  have hspares : b.spares o cs' = b.spares o cs := by
    funext tags
    rw [spares, spares, hlisted]
  refine ⟨b'', hrun', ?_, ?_, ?_, ?_, ?_, ?_⟩
  · rw [h'.metricColumns, h.metricColumns, hlisted]
  · rw [h'.tagTableColumns, h.tagTableColumns, hlisted]
  · rw [h'.rows, h.rows, hlisted, hspares]
  · rw [h'.recordCount, h.recordCount, hspares]
  · rw [h'.tagRows, h.tagRows, hlisted, hspares]
  · exact (hlisted ▸ h'.dropped).trans h.dropped.symm

def racked : List Metric := [recordOf [("host", "a")], recordOf [("host", "a"), ("rack", "r")]]

/-- A tag, twice, beside one that no record has. -/
def rackTwice : List Column := [.ofTag "rack", .ofTag "room", .ofTag "rack"]

theorem dropColumns_exact_racked : keyed.HasRoles ∧
    (∀ m ∈ racked, ∀ m' ∈ racked, (m.keptTags keyed).id = (m'.keptTags keyed).id →
      m.keptTags keyed = m'.keptTags keyed) ∧
    ∃ b, racked.foldl (push keyed) { name := "cpu" } = b ∧
      (∀ c ∈ rackTwice, ∃ b₁, b.dropColumn keyed c = .ok b₁) ∧
      ∃ b', rackTwice.foldlM (dropColumn keyed) b = .ok b' ∧ b'.recordCount = 1 ∧
        b'.tagTableColumns keyed = [keyed.tagIdColumn, .ofTag "host"] ∧
        b'.dropped.Perm [.ofTag "rack"] := by
  have ho : keyed.HasRoles := ⟨rfl, rfl⟩
  have hkeys : ∀ m ∈ racked, ∀ m' ∈ racked, (m.keptTags keyed).id = (m'.keptTags keyed).id →
      m.keptTags keyed = m'.keptTags keyed := by decide +kernel
  have hcs : ∀ c ∈ rackTwice, ∃ b₁,
      (racked.foldl (push keyed) { name := "cpu" }).dropColumn keyed c = .ok b₁ := by
    simp [rackTwice, dropColumn, isUndroppable, Column.ofTag, keyed, Options.plain]
  obtain ⟨b', hrun, h, _⟩ := dropColumns_exact ho "cpu" hkeys rfl hcs
  refine ⟨ho, hkeys, _, rfl, hcs, b', hrun, ?_, ?_, ?_⟩
  · rw [h.recordCount]
    decide +kernel
  · rw [h.tagTableColumns]
    decide +kernel
  · exact h.dropped

end TableBatch

end MetricTables
