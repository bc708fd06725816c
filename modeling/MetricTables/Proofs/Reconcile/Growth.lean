import MetricTables.Proofs.Reconcile.Statements
import MetricTables.Proofs.Sql.Openings

/-!
# Tables of others

What texts do to a table that is there already, whatever the texts say: they are rejected for
reasons that stay, except that something is there already, and what takes effect leaves the
columns of the table in front and gives no name twice.

## Main definitions

* `StoreError.IsRejection` — the store rejects a statement for one of its reasons.
* `Catalog.GrownFrom` — a table has the columns of before in front.

## Main statements

* `run_rejects` — what a text can fail with.
* `run_grown` — a table keeps its columns whatever is run.
* `run_creation`, `run_addition` — what is there is not created again.
-/

namespace MetricTables

/-! ## Rejections -/

/-- The codes of the reasons for which a catalog rejects statements. -/
def StateCode.rejections : List String :=
  [duplicateTable, duplicateColumn, undefinedTable, undefinedColumn, syntaxError,
    featureNotSupported]

/-- Whether the store rejects a statement for one of these reasons. -/
def StoreError.IsRejection (e : StoreError) : Prop :=
  ∃ code ∈ StateCode.rejections, ∃ message, e = .database code message

/-- The only rejections that may go away are of what is there already. -/
theorem StoreError.IsRejection.isTemporary {e : StoreError} (h : e.IsRejection) :
    e.isTemporary = e.isDuplicateObject := by
  obtain ⟨code, hcode, message, rfl⟩ := h
  simp only [StateCode.rejections, List.mem_cons, List.not_mem_nil, or_false] at hcode
  rcases hcode with rfl | rfl | rfl | rfl | rfl | rfl <;> rfl

/-- Whether a computation fails with rejections only. -/
def Rejects {α : Type} (x : Except StoreError α) : Prop := ∀ e, x = .error e → e.IsRejection

namespace Rejects

variable {α β : Type} {x : Except StoreError α} {f : α → Except StoreError β}

theorem ok (a : α) : Rejects (.ok a) := fun _ h => nomatch h

theorem error {code : String} (hcode : code ∈ StateCode.rejections) (message : String) :
    Rejects (.error (.database code message) : Except StoreError α) := by
  intro e he
  cases he
  exact ⟨code, hcode, message, rfl⟩

theorem bind (hx : Rejects x) (hf : ∀ a, Rejects (f a)) : Rejects (x >>= f) := by
  intro e he
  cases x with
  | error e' =>
    cases he
    exact hx e rfl
  | ok a => exact hf a e he

theorem foldlM {g : α → β → Except StoreError α} (hg : ∀ a b, Rejects (g a b)) (bs : List β)
    (a : α) : Rejects (bs.foldlM g a) := by
  induction bs generalizing a with
  | nil => exact ok a
  | cons b bs ih => exact (hg a b).bind ih

end Rejects

namespace Catalog

variable (t : Catalog)

theorem place_rejects (name : Sql.QualifiedName) : Rejects (place name) := by
  unfold place
  split
  · exact .ok _
  · exact .ok _
  · exact .error (by decide) _

theorem change_rejects (table : String) (columns : List StoredColumn) (c : Sql.TableChange) :
    Rejects (change table columns c) := by
  unfold change
  split
  · dsimp only
    split
    · split
      · exact .ok _
      · exact .error (by decide) _
    · exact .ok _
  · exact .error (by decide) _

theorem newColumns_rejects (ds : List Sql.ColumnDefinition) : Rejects (newColumns ds) := by
  refine .foldlM (fun columns d => ?_) ds []
  dsimp only
  split
  · exact .error (by decide) _
  · exact .ok _

theorem createTable_rejects (name : Sql.QualifiedName) (ifNotExists : Bool)
    (definitions : List Sql.ColumnDefinition) :
    Rejects (t.createTable name ifNotExists definitions) := by
  refine (place_rejects name).bind fun p => ?_
  have hinsert : Rejects (do
      let columns ← newColumns definitions
      pure (t.insert p columns)) := (newColumns_rejects definitions).bind fun _ => .ok _
  have hexists : Rejects (throw (relationExists p.2) : Except StoreError Catalog) :=
    .error (by decide) _
  have hempty : Rejects (throw (withoutColumns p.2) : Except StoreError Catalog) :=
    .error (by decide) _
  dsimp only
  split
  · split
    · exact .ok _
    · exact hexists
  · split
    · exact hempty
    · exact hinsert

theorem alterTable_rejects (name : Sql.QualifiedName) (changes : List Sql.TableChange) :
    Rejects (t.alterTable name changes) := by
  refine (place_rejects name).bind fun p => ?_
  split
  · exact .error (by decide) _
  next columns _ => exact (Rejects.foldlM (change_rejects p.2) changes columns).bind fun _ => .ok _

/-- A statement has no failures but those that the catalog gives reasons for. -/
theorem apply_rejects (s : Sql.Statement) : Rejects (t.apply s) := by
  cases s with
  | createTable name ifNotExists definitions => exact createTable_rejects t name ifNotExists _
  | alterTable name changes => exact alterTable_rejects t name changes
  | dropTable ifExists names shown => exact .error (by decide) _
  | query references shown => exact .error (by decide) _
  | other shown => exact .error (by decide) _

/-- A text fails with rejections only. -/
theorem run_rejects (sql : String) : Rejects (t.run sql) := by
  unfold run
  split
  · exact .error (by decide) _
  next statements _ => exact .foldlM apply_rejects statements t

theorem comment_rejects (p : TablePlace) (column text : String) :
    Rejects (t.comment p column text) := by
  unfold comment
  split
  · exact .error (by decide) _
  · split
    · exact .error (by decide) _
    · exact .ok _

/-! ## Tables that are there -/

variable {t} {t' : Catalog} {p q : TablePlace} {front columns columns' : List StoredColumn}

/-- The columns begin with some others, and have different names. -/
def Extended (front columns : List StoredColumn) : Prop :=
  front <+: columns ∧ (columns.map StoredColumn.name).Nodup

/-- The table at a place has the columns of before in front. -/
def GrownFrom (front : List StoredColumn) (p : TablePlace) (t : Catalog) : Prop :=
  ∃ columns, t.find? p = some columns ∧ Extended front columns

theorem GrownFrom.insert (ht : t.GrownFrom front p)
    (h : p = q → Extended front columns) : GrownFrom front p (KeyMap.insert t q columns) := by
  by_cases hp : p = q
  · subst hp
    exact ⟨columns, KeyMap.find?_insert_self .., h rfl⟩
  · obtain ⟨old, hfind, hold⟩ := ht
    exact ⟨old, (KeyMap.find?_insert_of_ne _ hp _).trans hfind, hold⟩

/-- A change that succeeds leaves the columns in front where they are. -/
theorem change_extended {table : String} {c : Sql.TableChange} (hcolumns : Extended front columns)
    (h : change table columns c = .ok columns') : Extended front columns' := by
  rcases change_cases h with rfl | ⟨s, rfl, hnew⟩
  · exact hcolumns
  · obtain ⟨hfront, hnames⟩ := hcolumns
    refine ⟨hfront.trans (List.prefix_append _ _), ?_⟩
    rw [List.map_append]
    exact hnames.append (List.nodup_singleton _) (List.disjoint_singleton.2 hnew)

theorem createTable_grown {name : Sql.QualifiedName} {ifNotExists : Bool}
    {definitions : List Sql.ColumnDefinition} (ht : t.GrownFrom front p)
    (h : t.createTable name ifNotExists definitions = .ok t') : t'.GrownFrom front p := by
  rcases createTable_cases h with rfl | ⟨q, columns, hlacks, _, _, rfl⟩
  · exact ht
  · refine ht.insert ?_
    rintro rfl
    obtain ⟨old, hfind, _⟩ := ht
    exact absurd (by simp [KeyMap.contains, hfind]) hlacks

theorem alterTable_grown {name : Sql.QualifiedName} {changes : List Sql.TableChange}
    (ht : t.GrownFrom front p) (h : t.alterTable name changes = .ok t') :
    t'.GrownFrom front p := by
  obtain ⟨q, columns, changed, hfind, hchanged, rfl⟩ := alterTable_cases h
  refine ht.insert fun hp => foldlM_keeps (fun _ _ _ => change_extended) ?_ hchanged
  obtain ⟨old, hold, hextended⟩ := ht
  rw [← hp, hold] at hfind
  exact Option.some.inj hfind ▸ hextended

/-- A table keeps its columns, and no name comes twice, whatever is run. -/
theorem run_grown {sql : String} (ht : t.GrownFrom front p) (h : t.run sql = .ok t') :
    t'.GrownFrom front p := by
  unfold run at h
  split at h
  · cases h
  · refine foldlM_keeps (fun t statement t' ht hstep => ?_) ht h
    cases statement with
    | createTable name ifNotExists definitions => exact createTable_grown ht hstep
    | alterTable name changes => exact alterTable_grown ht hstep
    | dropTable ifExists names shown => cases hstep
    | query references shown => cases hstep
    | other shown => cases hstep

/-- A mark on a column that is not among those of before leaves them alone. -/
theorem comment_grown {n : String} (ht : t.GrownFrom front p)
    (hn : n ∉ front.map StoredColumn.name) (h : t.comment p n tagComment = .ok t') :
    t'.GrownFrom front p := by
  obtain ⟨columns, hfind, ⟨new, rfl⟩, hnames⟩ := ht
  by_cases hmem : n ∈ (front ++ new).map StoredColumn.name
  · have hcolumns : t.columnsAt p = [] ++ (front ++ new) ++ [] := by
      rw [columnsAt_of_find? hfind, List.append_nil, List.nil_append]
    have hcomment := comment_tag hcolumns hnames hmem (by simp)
    rw [List.append_nil, List.nil_append, h] at hcomment
    cases hcomment
    have hmark : markNames [n] (front ++ new) = front ++ markNames [n] new := by
      have hfront : markNames [n] front = front := by
        refine (List.map_congr_left fun s hs => ?_).trans (List.map_id front)
        have hne : s.name ≠ n := fun h => hn (List.mem_map.2 ⟨s, hs, h⟩)
        simp [hne]
      rw [markNames, List.map_append, ← markNames, ← markNames, hfront]
    exact ⟨_, KeyMap.find?_insert_self .., hmark ▸ List.prefix_append _ _, by simpa using hnames⟩
  · have hnone : (front ++ new).findIdx? (fun s => s.name == n) = none := by
      rw [List.findIdx?_eq_none_iff]
      intro s hs
      simpa using fun h => hmem (List.mem_map.2 ⟨s, hs, h⟩)
    rw [comment, hfind] at h
    simp only [hnone] at h
    cases h

/-! ## What is there already -/

/-- A table that is there is not created. -/
theorem run_creation {x : String} (hcontains : t.contains p = true)
    (hread : Sql.statements?
      ("CREATE TABLE " ++ Identifier.qualified p.1 p.2 ++ " (" ++ x) ≠ none) :
    t.run ("CREATE TABLE " ++ Identifier.qualified p.1 p.2 ++ " (" ++ x) =
      .error (relationExists p.2) := by
  obtain ⟨ss, hss⟩ := Option.ne_none_iff_exists'.1 hread
  obtain ⟨definitions, more, rfl⟩ := Sql.statements?_creation hss
  rw [run_of_statements t hss]
  simp only [List.foldlM_cons, apply, createTable, place_nameOf]
  simp [hcontains, bind, Except.bind, throw, throwThe, MonadExceptOf.throw]

/-- A column that is there is not added. -/
theorem run_addition {n x : String} (hfind : t.find? p = some columns)
    (hcolumn : hasColumn columns n = true)
    (hread : Sql.statements? ("ALTER TABLE " ++ Identifier.qualified p.1 p.2 ++ " ADD COLUMN " ++
      (Identifier.quote n ++ " " ++ x)) ≠ none) :
    t.run ("ALTER TABLE " ++ Identifier.qualified p.1 p.2 ++ " ADD COLUMN " ++
      (Identifier.quote n ++ " " ++ x)) = .error (columnExists p.2 n) := by
  obtain ⟨ss, hss⟩ := Option.ne_none_iff_exists'.1 hread
  obtain ⟨d, changes, more, rfl, hd⟩ := Sql.statements?_addition hss
  rw [run_of_statements t hss]
  have hname : (StoredColumn.ofDefinition d).name = n := by simp [StoredColumn.ofDefinition, hd]
  simp only [List.foldlM_cons, apply, alterTable, place_nameOf]
  simp [hfind, change, hname, hcolumn, bind, Except.bind]

end Catalog

end MetricTables
