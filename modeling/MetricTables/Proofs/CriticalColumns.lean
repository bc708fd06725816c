import MetricTables.Proofs.Losses

/-!
# Critical columns

A batch cannot give up its time, the key of its tags or a column that holds all tags or all
fields. If one of them is missing, matching fails. What is missing comes in table order, so that
the columns before a critical one are tags, and only the column of all fields can have any
before it. What the tag table lacked is gone by then as well, since it comes first.

## Main statements

* `Request.missing_sorted` — what is missing comes in table order.
* `Matching.dropColumns_error` — what a critical column leaves.
* `Matching.matchBatch_criticalColumn` — what a batch lost if matching fails at a critical column.
-/

namespace MetricTables

/-! ## What is missing comes in table order -/

namespace Column

/-- Columns in table order. -/
def Sorted (cs : List Column) : Prop := cs.Pairwise fun a b => atMost a b = true

end Column

namespace Request

open Column

variable {σ : Type} [Store σ] {o : Options} {r : Request}

theorem extend_sorted (g : Gap) :
    Answers (r.extend o g : Reconciliation σ (List Column)) Column.Sorted := by
  unfold extend
  split
  · exact .pure (sorted_sort _)
  · split
    · exact .pure (sorted_sort _)
    · refine .bind_any fun failed => ?_
      dsimp only
      split
      · exact .bind_any fun _ => .pure (sorted_sort _)
      · exact .pure (sorted_sort _)

theorem create_sorted {required : List Column} (hrequired : Column.Sorted required) (g : Gap) :
    Answers (r.create o required g : Reconciliation σ (List Column)) Column.Sorted := by
  refine .bind_any fun answer => ?_
  cases answer with
  | ok _ => exact .pure (sorted_sort _)
  | error e =>
    dsimp only
    split
    · refine .bind_any fun _ => .bind_any fun d => ?_
      split
      · exact extend_sorted _
      · exact .pure hrequired
    · split
      · exact .throw e
      · exact .pure hrequired

/-- Whatever way a request takes, the columns that it reports as missing are in table order. -/
theorem change_sorted {required : List Column} (hrequired : Column.Sorted required) :
    Answers (r.change o required : Reconciliation σ (List Column)) Column.Sorted := by
  refine .bind_any fun d => ?_
  dsimp only
  split
  · exact extend_sorted _
  · split
    · exact .pure hrequired
    · split
      · exact .throw _
      · split
        · exact .pure (sorted_sort _)
        · exact create_sorted hrequired _

/-- What is missing comes in table order, on any store. -/
theorem missing_sorted : Answers (r.ensure o : Reconciliation σ (List Column)) Column.Sorted := by
  refine .bind_any fun d => ?_
  split
  next missing hsettled =>
    refine .pure ?_
    unfold settled? at hsettled
    dsimp only at hsettled
    split at hsettled
    · cases hsettled
      exact sorted_sort _
    · cases hsettled
  · exact .bind_any fun _ => change_sorted (sorted_sort _)

end Request

/-! ## What stands before a critical column -/

namespace TableBatch

variable {o : Options} {c d : Column}

/-- A column that is given up stands before one that is not only if it is a tag and the other
holds all fields. -/
theorem roles_of_atMost (hd : isUndroppable o d = false) (hc : isUndroppable o c = true)
    (hle : Column.atMost d c = true) : (d.role = .tag ∧ o.tagsAsJson = false) ∧
      c.role = .field ∧ o.fieldsAsJson = true := by
  have hrank : d.role.rank ≤ c.role.rank := by
    simp only [Column.atMost, decide_eq_true_eq] at hle
    omega
  unfold isUndroppable at hc hd
  cases hdRole : d.role <;> cases hcRole : c.role <;> simp_all [Role.rank]

namespace Loses

variable {b b' : TableBatch} {cs : List Column}

/-- What was given up was not critical. -/
theorem droppable (h : Loses o b cs b') : ∀ c ∈ cs, isUndroppable o c = false := by
  induction h with
  | nil b => simp
  | @cons b b₁ b' c cs hdrop _ ih =>
    rcases dropColumn_cases o b c with ⟨_, herror⟩ | ⟨hc, _⟩
    · cases herror.symm.trans hdrop
    · exact List.forall_mem_cons.2 ⟨hc, ih⟩

theorem eq_of_nil (h : Loses o b [] b') : b' = b := by
  cases h
  rfl

end Loses

end TableBatch

/-! ## Matching that fails at a critical column -/

namespace Matching

open TableBatch

variable {σ : Type} [Store σ] {o : Options} {e : SchemaError}

omit [Store σ] in
/-- Giving up columns fails at the first critical one, when those before it are gone. -/
theorem dropColumns_error (missing : List Column) (w : Work σ)
    (h : (missing.forM (dropColumn o) w).1 = .error e) :
    ∃ given c rest, missing = given ++ c :: rest ∧ isUndroppable o c = true ∧
      e = .criticalColumn c.name ∧
      Loses o w.batch given (missing.forM (dropColumn o) w).2.batch := by
  induction missing generalizing w with
  | nil => cases h
  | cons c cs ih =>
    have hfirst := run_dropColumn (o := o) c w
    have hcons : (c :: cs).forM (dropColumn o) = ((dropColumn o c : Matching σ PUnit) >>=
        fun _ => cs.forM (dropColumn o)) := rfl
    rw [hcons] at h ⊢
    rcases dropColumn_cases o w.batch c with ⟨hc, hdrop⟩ | ⟨_, b, hdrop⟩
    · rw [hdrop] at hfirst
      rw [run_bind_of_error hfirst] at h ⊢
      cases h
      exact ⟨[], c, cs, rfl, hc, rfl, .nil _⟩
    · rw [hdrop] at hfirst
      rw [run_bind_of_ok hfirst] at h ⊢
      obtain ⟨given, d, rest, rfl, hd, he, hloses⟩ := ih { w with batch := b } h
      exact ⟨c :: given, d, rest, rfl, hd, he, .cons hdrop hloses⟩

/-- If a table of the batch cannot be matched, the batch is as it was, or tags of the table
went before the column that holds all fields. -/
theorem matchTable_error {request : TableBatch → Request} {w : Work σ}
    (h : (matchTable o request w).1 = .error e) :
    (matchTable o request w).2.batch = w.batch ∨
      ∃ c ∈ (request w.batch).required, ∃ given, (c.role = .field ∧ o.fieldsAsJson = true) ∧
        e = .criticalColumn c.name ∧ given ≠ [] ∧
        (∀ d ∈ given, d ∈ (request w.batch).required ∧ d.role = .tag ∧ o.tagsAsJson = false) ∧
        Loses o w.batch given (matchTable o request w).2.batch := by
  rcases hanswer : w.manager.ensure o (request w.batch) with ⟨answer, m⟩
  have hfirst := run_ensure hanswer
  cases answer with
  | error e =>
    rw [matchTable_eq, run_bind_of_error hfirst]
    exact .inl rfl
  | ok missing =>
    rw [matchTable_eq, run_bind_of_ok hfirst] at h ⊢
    have hok : (w.manager.ensure o (request w.batch)).1 = .ok missing := by rw [hanswer]
    have hsorted : Column.Sorted missing := Request.missing_sorted _ missing hok
    have hsub : missing.Subperm (request w.batch).required := Request.missing_subperm _ missing hok
    rcases hdropped : missing.forM (dropColumn o) { w with manager := m } with ⟨answer, w'⟩
    cases answer with
    | ok _ =>
      rw [run_bind_of_ok hdropped] at h
      cases h
    | error e' =>
      rw [run_bind_of_error hdropped] at h ⊢
      cases h
      obtain ⟨given, c, rest, rfl, hc, he, hloses⟩ :=
        dropColumns_error missing { w with manager := m } (by rw [hdropped])
      rw [hdropped] at hloses
      by_cases hgiven : given = []
      · subst hgiven
        exact .inl hloses.eq_of_nil
      · have hbefore : ∀ d ∈ given, (d.role = .tag ∧ o.tagsAsJson = false) ∧
            c.role = .field ∧ o.fieldsAsJson = true := fun d hd =>
          roles_of_atMost (hloses.droppable d hd) hc
            ((List.pairwise_append.1 hsorted).2.2 d hd c List.mem_cons_self)
        obtain ⟨d, hd⟩ := List.exists_mem_of_ne_nil given hgiven
        exact .inr ⟨c, hsub.subset (by simp), given, (hbefore d hd).2, he, hgiven,
          fun d hd => ⟨hsub.subset (by simp [hd]), (hbefore d hd).1⟩, hloses⟩

section Critical

variable (ho : o.HasRoles)
include ho

/-- If the tag table cannot be matched, the batch is as it was. -/
theorem matchTagTable_error {w : Work σ} (hw : w.batch.Valid o)
    (h : (matchTagTable o w.batch w).1 = .error e) :
    (matchTagTable o w.batch w).2.batch = w.batch := by
  unfold matchTagTable at h ⊢
  cases htable : tagTable? o w.batch with
  | none =>
    rw [htable] at h
    cases h
  | some tagTable =>
    rw [htable] at h
    rcases matchTable_error h with hsame | ⟨c, hc, _, ⟨hrole, _⟩, _⟩
    · exact hsame
    · -- The tag table has no column for fields.
      rcases List.mem_cons.1 hc with rfl | hc
      · cases ho.tagId.symm.trans hrole
      · cases (role_of_mem_tagPart hw hc).symm.trans hrole

/-- What the tag table lacks is given up if it is tags. -/
theorem matchTagTable_ok {w : Work σ} (hw : w.batch.Valid o) {missing : List Column}
    (h : (matchTagTable o w.batch w).1 = .ok missing) :
    (matchTagTable o w.batch w).2.batch = w.batch ∨
      (o.tagsAsForeignKeys = true ∧ o.tagsAsJson = false) ∧ missing ≠ [] ∧
        (w.manager.ensure o (tagRequest o w.batch (o.tagTableName w.batch.name))).1 = .ok missing ∧
        (∀ c ∈ missing, c ∈ w.batch.tagPart o) ∧
        Loses o w.batch missing (matchTagTable o w.batch w).2.batch := by
  unfold matchTagTable tagTable? at h ⊢
  cases hkeys : o.tagsAsForeignKeys with
  | false => exact .inl rfl
  | true =>
    rw [hkeys] at h
    obtain ⟨_, cs, hloses, hok⟩ := run_matchTable (o := o)
      (fun b => tagRequest o b (o.tagTableName w.batch.name)) w
    obtain ⟨hanswer, rfl⟩ := hok missing h
    by_cases hcs : cs = []
    · subst hcs
      exact .inl hloses.eq_of_nil
    · have htags : ∀ d ∈ cs, o.tagsAsJson = false ∧ d ∈ w.batch.tagPart o := by
        intro d hd
        have hdroppable := hloses.droppable d hd
        have hsub : cs.Subperm (w.batch.tagTableColumns o) := Request.missing_subperm _ cs hanswer
        rcases List.mem_cons.1 (hsub.subset hd) with rfl | hpart
        · simp [isUndroppable, ho.tagId] at hdroppable
        · have hrole := role_of_mem_tagPart hw hpart
          exact ⟨by simpa [isUndroppable, hrole] using hdroppable, hpart⟩
      obtain ⟨d, hd⟩ := List.exists_mem_of_ne_nil cs hcs
      exact .inr ⟨⟨rfl, (htags d hd).1⟩, hcs, hanswer, fun d hd => (htags d hd).2, hloses⟩

/-- If the metric table cannot be matched, the batch is as it was, or tags that were columns of it
went before the column that holds all fields. -/
theorem matchMetricTable_error {w : Work σ} (hw : w.batch.Valid o)
    (h : (matchTable o (metricRequest o) w).1 = .error e) :
    (matchTable o (metricRequest o) w).2.batch = w.batch ∨
      (o.tagsAsForeignKeys = false ∧ o.tagsAsJson = false ∧ o.fieldsAsJson = true) ∧
        e = .criticalColumn fieldsJsonName ∧ ∃ given, (∀ c ∈ given, c ∈ w.batch.tagPart o) ∧
          Loses o w.batch given (matchTable o (metricRequest o) w).2.batch := by
  rcases matchTable_error h with hsame | ⟨c, hc, given, ⟨hrole, hjson⟩, he, hne, hgiven, hloses⟩
  · exact .inl hsame
  · have hfield : c = o.fieldsJsonColumn := by
      have hplace := place_of_mem ho hw (.inl hc)
      simpa [hrole, fieldPart, hjson] using hplace
    have htags : ∀ d ∈ given, o.tagsAsForeignKeys = false ∧ d ∈ w.batch.tagPart o := by
      intro d hd
      obtain ⟨hmem, htag, _⟩ := hgiven d hd
      rcases mem_metricColumns.1 hmem with rfl | (⟨_, rfl⟩ | hpart) | hpart
      · cases ho.time.symm.trans htag
      · cases ho.tagId.symm.trans htag
      · exact hpart
      · cases (role_of_mem_fieldPart hw hpart).symm.trans htag
    obtain ⟨d, hd⟩ := List.exists_mem_of_ne_nil given hne
    exact .inr ⟨⟨(htags d hd).1, (hgiven d hd).2.2, hjson⟩, by rw [he, hfield]; rfl, given,
      fun d hd => (htags d hd).2, hloses⟩

/-- If matching fails since a column is missing that the batch cannot give up, the batch is as it
was, up to two things. Where tags are kept by key, the tags that its tag table lacked are gone,
with their records, since the tag table was matched before. Where tags are columns of the metric
table and all fields share one column, it is that column which is missing, and some tags may be
gone; no field is. -/
theorem matchBatch_criticalColumn {w w' : Work σ} {name : String} (hw : w.batch.Built o)
    (h : matchBatch o w = (.error (.criticalColumn name), w')) :
    w'.batch = w.batch ∨
      ((o.tagsAsForeignKeys = true ∧ o.tagsAsJson = false) ∧ ∃ missing, missing ≠ [] ∧
        (w.manager.ensure o (tagRequest o w.batch (o.tagTableName w.batch.name))).1 = .ok missing ∧
        (∀ c ∈ missing, c ∈ w.batch.tagPart o) ∧ Loses o w.batch missing w'.batch) ∨
      ((o.tagsAsForeignKeys = false ∧ o.tagsAsJson = false ∧ o.fieldsAsJson = true) ∧
        name = fieldsJsonName ∧ ∃ given, (∀ c ∈ given, c ∈ w.batch.tagPart o) ∧
          Loses o w.batch given w'.batch) := by
  rw [run_matchBatch] at h
  rcases hfirst : matchTagTable o w.batch w with ⟨answer, w₁⟩
  cases answer with
  | error e =>
    rw [run_bind_of_error hfirst] at h
    cases h
    have hsame := matchTagTable_error ho hw.valid (by rw [hfirst])
    rw [hfirst] at hsame
    exact .inl hsame
  | ok missing =>
    rw [run_bind_of_ok hfirst] at h
    obtain ⟨cs, hloses⟩ := matchTagTable_loses (o := o) w
    have hgone := matchTagTable_ok ho hw.valid (by rw [hfirst])
    rw [hfirst] at hloses hgone
    rcases hsecond : matchTable o (metricRequest o) w₁ with ⟨answer, w₂⟩
    cases answer with
    | ok _ =>
      rw [run_bind_of_ok hsecond] at h
      cases h
    | error e =>
      rw [run_bind_of_error hsecond] at h
      cases h
      have hend := matchMetricTable_error ho (hloses.valid hw.valid) (by rw [hsecond])
      rw [hsecond] at hend
      rcases hend with hsame | ⟨hmodes, hname, given, hgiven, hlast⟩
      · -- The metric table costs nothing more than what the tag table did.
        rw [hsame]
        exact hgone.imp_right fun ⟨hmodes, hne, hanswer, htags, hlost⟩ =>
          .inl ⟨hmodes, missing, hne, hanswer, htags, hlost⟩
      · rcases hgone with hsame | ⟨⟨hkeys, _⟩, _⟩
        · rw [hsame] at hgiven hlast
          exact .inr (.inr ⟨hmodes, SchemaError.criticalColumn.inj hname, given, hgiven, hlast⟩)
        · cases hkeys.symm.trans hmodes.1

end Critical

end Matching

/-! ## What is gone when a critical column is missing -/

/-- A layout with tags by key that creates no metric tables. -/
def Options.given : Options :=
  { Options.plain with tagsAsForeignKeys := true, createTemplates := [] }

/-- The tag table has a column of the name of the tag that is not marked as one, and there is no
metric table. -/
def unmarkedWork : Work MemoryStore where
  manager :=
    { store :=
        { tables := KeyMap.empty.insert ("", "cpu_tag")
            [{ name := "tag_id", type := "bigint" }, { name := "host", type := "text" }] } }
  batch :=
    TableBatch.push .given { name := "cpu" }
      { name := "cpu"
        tags := KeyMap.empty.insert "host" "a"
        fields := KeyMap.empty.insert "usage" (.int 1)
        timestamp := default }

theorem run_unmarkedWork :
    ((Matching.matchBatch .given unmarkedWork).1,
      (Matching.matchBatch .given unmarkedWork).2.batch.recordCount) =
        (.error (.criticalColumn "time"), 0) := by cbv

theorem matchBatch_unmarkedWork : (Matching.matchBatch .given unmarkedWork).1 =
    .error (.criticalColumn "time") := congrArg Prod.fst run_unmarkedWork

theorem recordCount_unmarkedWork :
    (Matching.matchBatch .given unmarkedWork).2.batch.recordCount = 0 :=
  congrArg Prod.snd run_unmarkedWork

/-- The tag went since the tag table lacked it. -/
theorem matchBatch_criticalColumn_unmarkedWork : Options.given.HasRoles ∧
    unmarkedWork.batch.Built .given ∧ ∃ missing, missing ≠ [] ∧
      (∀ c ∈ missing, c ∈ unmarkedWork.batch.tagPart .given) ∧
      TableBatch.Loses .given unmarkedWork.batch missing
        (Matching.matchBatch .given unmarkedWork).2.batch := by
  have ho : Options.given.HasRoles := ⟨rfl, rfl⟩
  have hw : unmarkedWork.batch.Built .given := .push _ (.new _)
  refine ⟨ho, hw, ?_⟩
  rcases Matching.matchBatch_criticalColumn ho hw (Prod.ext matchBatch_unmarkedWork rfl) with
    hsame | ⟨_, missing, hne, _, htags, hloses⟩ | ⟨⟨hkeys, _⟩, _⟩
  · have hcount : unmarkedWork.batch.recordCount = 0 := hsame ▸ recordCount_unmarkedWork
    exact absurd hcount (by cbv)
  · exact ⟨missing, hne, htags, hloses⟩
  · cases hkeys

/-- A layout with one column for all fields. -/
def Options.foldedFields : Options := { Options.plain with fieldsAsJson := true }

/-- The metric table has a column of the name of the tag that is not marked as one, and texts
where all fields are to be. -/
def foldedWork : Work MemoryStore where
  manager :=
    { store :=
        { tables := KeyMap.empty.insert ("", "cpu")
            [{ name := "time", type := "timestamp without time zone" },
              { name := "host", type := "text" }, { name := "fields", type := "text" }] } }
  batch :=
    TableBatch.push .foldedFields { name := "cpu" }
      { name := "cpu"
        tags := KeyMap.empty.insert "host" "a"
        fields := KeyMap.empty.insert "usage" (.int 1)
        timestamp := default }

theorem matchBatch_foldedWork : (Matching.matchBatch .foldedFields foldedWork).1 =
    .error (.criticalColumn "fields") := by cbv

/-- A critical column is missing, and the tag and its record are gone: in the tag table before,
or in the metric table itself. -/
theorem tag_gone_before_critical :
    ((Matching.matchBatch .given unmarkedWork).1 = .error (.criticalColumn "time") ∧
      unmarkedWork.batch.recordCount = 1 ∧
      (Matching.matchBatch .given unmarkedWork).2.batch.recordCount = 0 ∧
      (Matching.matchBatch .given unmarkedWork).2.batch.dropped = [⟨"host", .tag, .text⟩]) ∧
    ((Matching.matchBatch .foldedFields foldedWork).1 = .error (.criticalColumn "fields") ∧
      foldedWork.batch.recordCount = 1 ∧
      (Matching.matchBatch .foldedFields foldedWork).2.batch.recordCount = 0) :=
  ⟨⟨matchBatch_unmarkedWork, by cbv, recordCount_unmarkedWork, by cbv⟩,
    matchBatch_foldedWork, by cbv, by cbv⟩

end MetricTables
