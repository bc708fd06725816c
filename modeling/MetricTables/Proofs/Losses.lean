import MetricTables.Proofs.Matching

/-!
# Losses of a batch

A batch that is matched gives up the columns of its outcome, in their order, and nothing else.
That is so for one attempt, on any store. An attempt that failed may have given up columns as
well, and no outcome names them.

## Main definitions

* `lastStart` — where the last attempt of a retried computation begins.

## Main statements

* `Request.missing_subperm` — what is missing was required.
* `Matching.matchBatch_loses` — what one attempt gives up.
* `matchWithRetry_dropped` — what all attempts give up.
-/

namespace MetricTables

open Reconciliation

/-! ## What is missing was required -/

/-- What holds of every result of a computation, if it has one. -/
def Answers {τ α : Type} (x : ExceptT SchemaError (StateM τ) α) (P : α → Prop) : Prop :=
  ∀ w a, (x w).1 = .ok a → P a

namespace Answers

variable {τ α β : Type} {x : ExceptT SchemaError (StateM τ) α}
  {f : α → ExceptT SchemaError (StateM τ) β} {P P' : α → Prop} {Q : β → Prop}

theorem mono (h : Answers x P) (hP : ∀ a, P a → P' a) : Answers x P' :=
  fun w a ha => hP a (h w a ha)

theorem pure {a : α} (h : P a) : Answers (Pure.pure a : ExceptT SchemaError (StateM τ) α) P := by
  intro w b hb
  cases hb
  exact h

theorem throw (e : SchemaError) : Answers (throw e : ExceptT SchemaError (StateM τ) α) P := by
  intro w a ha
  cases ha

theorem bind (hx : Answers x P) (hf : ∀ a, P a → Answers (f a) Q) : Answers (x >>= f) Q := by
  intro w b hb
  rcases hrun : x w with ⟨answer, w₁⟩
  cases answer with
  | error e =>
    rw [run_bind_of_error hrun] at hb
    cases hb
  | ok a =>
    rw [run_bind_of_ok hrun] at hb
    exact hf a (hx w a (by rw [hrun])) w₁ b hb

/-- Nothing has to be known of the first result. -/
theorem bind_any (hf : ∀ a, Answers (f a) Q) : Answers (x >>= f) Q :=
  bind (P := fun _ => True) (fun _ _ _ => trivial) fun a _ => hf a

end Answers

namespace Request

variable {σ : Type} [Store σ] {o : Options} {r : Request}

theorem addColumns_sublist (cs : List Column) :
    Answers (r.addColumns o cs : Reconciliation σ (List Column)) fun failed =>
      failed.Sublist cs := by
  induction cs with
  | nil => exact .pure (.refl _)
  | cons c cs ih =>
    refine .bind_any fun added => ih.bind fun rest hrest => .pure ?_
    split
    · exact hrest.cons c
    · exact hrest.cons_cons c

/-- An extension reports no column that it was not asked for, and none more often. -/
theorem extend_subperm (g : Gap) : Answers (r.extend o g : Reconciliation σ (List Column))
    fun missing => missing.Subperm (g.missing ++ g.addable) := by
  unfold extend
  split
  · exact .pure ((Column.sort_perm _).subperm.trans (List.sublist_append_left _ _).subperm)
  · split
    · exact .pure (Column.sort_perm _).subperm
    · refine (addColumns_sublist g.addable).bind fun failed hfailed => ?_
      have hresult : (Column.sort (g.missing ++ failed)).Subperm (g.missing ++ g.addable) :=
        (Column.sort_perm _).subperm.trans (hfailed.append_left _).subperm
      dsimp only
      split
      · exact .bind_any fun _ => .pure hresult
      · exact .pure hresult

theorem create_subperm {required : List Column} {g : Gap}
    (hg : (g.missing ++ g.addable).Subperm required) :
    Answers (r.create o required g : Reconciliation σ (List Column))
      fun missing => missing.Subperm required := by
  refine .bind_any fun answer => ?_
  cases answer with
  | ok _ =>
    exact .pure ((Column.sort_perm _).subperm.trans
      ((List.sublist_append_left _ _).subperm.trans hg))
  | error e =>
    dsimp only
    split
    · refine .bind_any fun _ => .bind_any fun d => ?_
      split
      · refine (extend_subperm _).mono fun missing hmissing => hmissing.trans (.trans ?_ hg)
        rw [List.append_assoc]
        exact (List.subperm_append_left _).2 Definition.conflicts_append_absent_subperm
      · exact .pure (.refl _)
    · split
      · exact .throw e
      · exact .pure (.refl _)

/-- A request reports as missing only columns that it requires, each as often as it requires it. -/
theorem change_subperm (required : List Column) :
    Answers (r.change o required : Reconciliation σ (List Column))
      fun missing => missing.Subperm required := by
  refine .bind_any fun d => ?_
  have hgap : ((d.gap o.identifierMaxBytes required).missing ++
      (d.gap o.identifierMaxBytes required).addable).Subperm required := Definition.gap_subperm
  dsimp only
  split
  · exact (extend_subperm _).mono fun missing hmissing => hmissing.trans hgap
  · split
    · exact .pure (.refl _)
    · split
      · exact .throw _
      · split
        · exact .pure ((Column.sort_perm _).subperm.trans
            ((List.sublist_append_left _ _).subperm.trans hgap))
        · exact create_subperm hgap

/-- What is missing was required, on any store. -/
theorem missing_subperm : Answers (r.ensure o : Reconciliation σ (List Column))
    fun missing => missing.Subperm r.required := by
  have hsort : (Column.sort r.required).Subperm r.required := (Column.sort_perm _).subperm
  refine .bind_any fun d => ?_
  split
  next missing hsettled =>
    refine .pure ?_
    unfold settled? at hsettled
    dsimp only at hsettled
    split at hsettled
    · cases hsettled
      exact (Column.sort_perm _).subperm.trans (Definition.gap_subperm.trans hsort)
    · cases hsettled
  · exact .bind_any fun _ => (change_subperm _).mono fun missing hmissing => hmissing.trans hsort

end Request

/-! ## Columns that are given up -/

namespace TableBatch

variable {o : Options} {b b' : TableBatch} {c : Column} {cs : List Column}

/-- Whether a table of the batch needs the column. -/
def Needs (o : Options) (b : TableBatch) (c : Column) : Prop :=
  c ∈ b.metricColumns o ∨ c ∈ b.tagTableColumns o

theorem needs_iff : b.Needs o c ↔
    c = o.timeColumn ∨ c = o.tagIdColumn ∨ c ∈ b.tagPart o ∨ c ∈ b.fieldPart o := by
  simp only [Needs, mem_metricColumns, tagTableColumns, List.mem_cons]
  tauto

/-- A needed column that is no fixed one belongs to the part of its role. -/
theorem mem_part_of_needs (ho : o.HasFixedColumns) (hb : b.Valid o) (hc : b.Needs o c) :
    (c.role = .tag → c ∈ b.tagPart o) ∧ (c.role = .field → c ∈ b.fieldPart o) := by
  rcases needs_iff.1 hc with rfl | rfl | hc | hc
  · simp [ho.timeRole]
  · simp [ho.tagIdRole]
  · simp [((isPart_tagPart ho hb).columns c hc).1, hc]
  · simp [((isPart_fieldPart ho hb).columns c hc).1, hc]

/-- Giving up a needed column notes it, and takes away no column of another name. -/
theorem dropColumn_needed (ho : o.HasFixedColumns) (hb : b.Valid o) (hc : b.Needs o c)
    (hdrop : b.dropColumn o c = .ok b') : b'.dropped = b.dropped ++ [c] ∧
      ∀ d, d.name ≠ c.name → b.Needs o d → b'.Needs o d := by
  obtain ⟨htag, hfield⟩ := mem_part_of_needs ho hb hc
  rcases dropColumn_eq hdrop with ⟨hrole, hjson, rfl⟩ | ⟨hrole, hjson, rfl⟩
  · have hmem : c ∈ b.tagColumns.columns := by simpa [tagPart, hjson] using htag hrole
    have hfind := ColumnList.find?_of_mem hb.tagNames hmem
    refine ⟨by simp [dropTag, hfind], fun d hname hd => ?_⟩
    have hkept : d ∈ b.tagColumns.columns → d ∈ (b.tagColumns.erase c.name).columns :=
      fun hd => ColumnList.mem_erase_of_ne hd hname
    have hpart : d ∈ b.tagPart o → d ∈ (b.dropTag c.name).tagPart o := by
      simpa [tagPart, hjson, dropTag, hfind] using hkept
    have hother : (b.dropTag c.name).fieldPart o = b.fieldPart o := by
      simp [fieldPart, dropTag, hfind]
    rw [needs_iff, hother]
    exact (needs_iff.1 hd).imp_right (Or.imp_right (Or.imp_left hpart))
  · have hmem : c ∈ b.fieldColumns.columns := by simpa [fieldPart, hjson] using hfield hrole
    have hfind := ColumnList.find?_of_mem hb.fieldNames hmem
    refine ⟨by simp [dropField, hfind], fun d hname hd => ?_⟩
    have hkept : d ∈ b.fieldColumns.columns → d ∈ (b.fieldColumns.erase c.name).columns :=
      fun hd => ColumnList.mem_erase_of_ne hd hname
    have hpart : d ∈ b.fieldPart o → d ∈ (b.dropField c.name).fieldPart o := by
      simpa [fieldPart, hjson, dropField, hfind] using hkept
    have hother : (b.dropField c.name).tagPart o = b.tagPart o := by
      simp [tagPart, dropField, hfind]
    rw [needs_iff, hother]
    exact (needs_iff.1 hd).imp_right (Or.imp_right (Or.imp_right hpart))

namespace Loses

/-- Needed columns of different names are given up one behind the other. -/
theorem dropped_eq (ho : o.HasFixedColumns) (h : Loses o b cs b') (hb : b.Valid o)
    (hnames : (cs.map Column.name).Nodup) (hcs : ∀ c ∈ cs, b.Needs o c) :
    b'.dropped = b.dropped ++ cs := by
  induction h with
  | nil b => simp
  | @cons b b₁ b' c cs hdrop _ ih =>
    obtain ⟨hc, hnames⟩ := List.nodup_cons.1 hnames
    obtain ⟨hdropped, hkept⟩ := dropColumn_needed ho hb (hcs c List.mem_cons_self) hdrop
    rw [ih (valid_dropColumn hb hdrop) hnames ?_, hdropped, List.append_assoc,
      List.singleton_append]
    intro d hd
    refine hkept d (fun hname => hc ?_) (hcs d (List.mem_cons_of_mem _ hd))
    exact hname ▸ List.mem_map.2 ⟨d, hd, rfl⟩

/-- A batch that gives up a column notes one, or stays as it is. -/
theorem dropped_cases (hdrop : b.dropColumn o c = .ok b') :
    b' = b ∨ ∃ d, b'.dropped = b.dropped ++ [d] := by
  rcases dropColumn_eq hdrop with ⟨_, _, rfl⟩ | ⟨_, _, rfl⟩
  · unfold dropTag
    cases b.tagColumns.find? c.name with
    | none => exact .inl rfl
    | some d => exact .inr ⟨d, rfl⟩
  · unfold dropField
    cases b.fieldColumns.find? c.name with
    | none => exact .inl rfl
    | some d => exact .inr ⟨d, rfl⟩

theorem dropped_prefix (h : Loses o b cs b') : b.dropped <+: b'.dropped := by
  induction h with
  | nil b => exact List.prefix_rfl
  | cons hdrop _ ih =>
    rcases dropped_cases hdrop with rfl | ⟨d, hd⟩
    · exact ih
    · exact List.IsPrefix.trans ⟨[d], hd.symm⟩ ih

/-- A batch that notes nothing stays as it is. -/
theorem eq_of_dropped_eq (h : Loses o b cs b') (hdropped : b'.dropped = b.dropped) : b' = b := by
  induction h with
  | nil b => rfl
  | cons hdrop hrest ih =>
    rcases dropped_cases hdrop with rfl | ⟨d, hd⟩
    · exact ih hdropped
    · have hle := hrest.dropped_prefix.length_le
      rw [hdropped, hd, List.length_append] at hle
      simp at hle

end Loses

end TableBatch

namespace Matching

open TableBatch

variable {σ : Type} [Store σ] {o : Options}

/-! ## One attempt -/

/-- One table of a batch costs it the columns that are missing. -/
theorem matchTable_dropped (ho : o.HasFixedColumns) {request : TableBatch → Request} (w : Work σ)
    (hw : w.batch.Valid o) (hnames : ((request w.batch).required.map Column.name).Nodup)
    (hneeds : ∀ c ∈ (request w.batch).required, w.batch.Needs o c) {missing : List Column}
    (h : (matchTable o request w).1 = .ok missing) :
    (matchTable o request w).2.batch.dropped = w.batch.dropped ++ missing := by
  obtain ⟨_, cs, hloses, hall⟩ := run_matchTable (o := o) request w
  obtain ⟨hanswer, rfl⟩ := hall missing h
  have hsubperm : cs.Subperm (request w.batch).required :=
    Request.missing_subperm _ cs hanswer
  have hcs : (cs.map Column.name).Nodup := Column.nodup_of_subperm hsubperm hnames
  exact hloses.dropped_eq ho hw hcs fun c hc => hneeds c (hsubperm.subset hc)

theorem matchTagTable_loses (w : Work σ) :
    ∃ cs, Loses o w.batch cs (matchTagTable o w.batch w).2.batch := by
  unfold matchTagTable
  cases tagTable? o w.batch with
  | none => exact ⟨[], .nil _⟩
  | some tagTable =>
    obtain ⟨_, cs, hloses, _⟩ := run_matchTable (o := o) (fun b => tagRequest o b tagTable) w
    exact ⟨cs, hloses⟩

/-- The columns that the tag table lacks are given up in the order of the report. -/
theorem matchTagTable_dropped (ho : o.HasFixedColumns) (w : Work σ) (hw : w.batch.Valid o)
    {missing : List Column} (h : (matchTagTable o w.batch w).1 = .ok missing) :
    (matchTagTable o w.batch w).2.batch.dropped = w.batch.dropped ++ missing := by
  unfold matchTagTable at h ⊢
  cases htable : tagTable? o w.batch with
  | none =>
    rw [htable] at h
    cases h
    exact (List.append_nil _).symm
  | some tagTable =>
    rw [htable] at h
    exact matchTable_dropped ho w hw (nodup_tagTableColumns ho hw) (fun c hc => .inr hc) h

/-- An attempt takes nothing from a batch but columns. -/
theorem matchBatch_loses (w : Work σ) : ∃ cs, Loses o w.batch cs (matchBatch o w).2.batch := by
  obtain ⟨cs, hloses⟩ := matchTagTable_loses (o := o) w
  rcases matchBatch_cases (o := o) w with ⟨_, hend⟩ | ⟨_, _, hend, _⟩
  · rw [hend]
    exact ⟨cs, hloses⟩
  · obtain ⟨_, cs', hloses', _⟩ := run_matchTable (o := o) (metricRequest o)
      (matchTagTable o w.batch w).2
    rw [hend]
    exact ⟨cs ++ cs', hloses.trans hloses'⟩

/-- An attempt that succeeds costs a batch the columns of its outcome. -/
theorem matchBatch_dropped (ho : o.HasFixedColumns) (w : Work σ) (hw : w.batch.Valid o)
    {outcome : Outcome} (h : (matchBatch o w).1 = .ok outcome) :
    (matchBatch o w).2.batch.dropped =
      w.batch.dropped ++ outcome.tagTableMissing ++ outcome.metricTableMissing := by
  rcases matchBatch_cases (o := o) w with ⟨⟨e, he⟩, _⟩ | ⟨tagMissing, htag, hend, hok⟩
  · cases he.symm.trans h
  · obtain ⟨missing, hmissing, rfl⟩ := hok outcome h
    obtain ⟨cs, hloses⟩ := matchTagTable_loses (o := o) w
    have hw₁ := hloses.valid hw
    have htable := matchTable_dropped ho _ hw₁ (nodup_metricColumns ho hw₁)
      (fun c hc => .inl hc) hmissing
    rw [hend, htable, matchTagTable_dropped ho w hw htag]

end Matching

/-! ## All attempts -/

section Retry

variable {τ α : Type} {act : τ → Except SchemaError α × τ}

/-- Where the last attempt of a computation begins that is repeated while it fails in a way
that may go away and a retry is left. -/
def lastStart (act : τ → Except SchemaError α × τ) : Nat → τ → τ
  | 0, t => t
  | left + 1, t =>
    match act t with
    | (.error e, t') => if e.isTemporary then lastStart act left t' else t
    | (.ok _, _) => t

/-- The last attempt gives the result. -/
theorem retry_eq_lastStart (attempt left : Nat) (t : τ) :
    (retry act attempt left t).1 = act (lastStart act left t) := by
  induction left generalizing attempt t with
  | zero => rfl
  | succ left ih =>
    rw [retry, lastStart]
    rcases hact : act t with ⟨answer, t'⟩
    cases answer with
    | ok a => exact hact.symm
    | error e =>
      dsimp only
      split
      · exact ih (attempt + 1) t'
      · exact hact.symm

/-- What every attempt keeps is kept up to the last one. -/
theorem lastStart_keeps {R : τ → τ → Prop} (hrefl : ∀ t, R t t)
    (htrans : ∀ t t₁ t', R t t₁ → R t₁ t' → R t t') (hact : ∀ t, R t (act t).2)
    (left : Nat) (t : τ) :
    R t (lastStart act left t) := by
  induction left generalizing t with
  | zero => exact hrefl t
  | succ left ih =>
    rw [lastStart]
    have hstep := hact t
    rcases hrun : act t with ⟨answer, t'⟩
    rw [hrun] at hstep
    cases answer with
    | ok a => exact hrefl t
    | error e =>
      dsimp only
      split
      · exact htrans _ _ _ hstep (ih t')
      · exact hrefl t

end Retry

section Batch

open Matching TableBatch

variable {σ : Type} [Store σ] {o : Options}

/-- If matching succeeds, whatever the store answered, the batch gave up the columns of the
outcome in the last attempt. So the outcome accounts for all columns that were given up exactly
if no attempt before gave one up. -/
theorem matchWithRetry_dropped (ho : o.HasFixedColumns) (retries : Nat) (w : Work σ)
    (hw : w.batch.Built o) {outcome : Outcome} (h : (matchWithRetry o retries w).1 = .ok outcome) :
    let before := (lastStart (matchBatch o).run retries w).batch
    let after := (matchWithRetry o retries w).2.batch
    after.dropped = before.dropped ++ outcome.tagTableMissing ++ outcome.metricTableMissing ∧
      w.batch.dropped <+: before.dropped ∧
      (after.dropped = w.batch.dropped ++ outcome.tagTableMissing ++ outcome.metricTableMissing ↔
        before.dropped = w.batch.dropped) ∧
      (before.dropped = w.batch.dropped ↔ before = w.batch) ∧
      (outcome.isComplete = true → after = before) := by
  intro before after
  let start := lastStart (matchBatch o).run retries w
  have hlast : (retry (matchBatch o).run 0 retries w).1 = matchBatch o start :=
    retry_eq_lastStart 0 retries w
  have hanswer : (matchBatch o start).1 = .ok outcome := by
    rw [← hlast]
    exact h
  have hafter : after = (matchBatch o start).2.batch := by
    rw [← hlast]
    rfl
  obtain ⟨cs, hloses⟩ : ∃ cs, Loses o w.batch cs before :=
    lastStart_keeps (R := fun w w' : Work σ => ∃ cs, Loses o w.batch cs w'.batch)
      (fun w => ⟨[], .nil _⟩) (fun _ _ _ ⟨cs, h⟩ ⟨cs', h'⟩ => ⟨cs ++ cs', h.trans h'⟩)
      matchBatch_loses retries w
  have hdropped : after.dropped =
      before.dropped ++ outcome.tagTableMissing ++ outcome.metricTableMissing := by
    rw [hafter]
    exact matchBatch_dropped ho start (hloses.valid hw.valid) hanswer
  refine ⟨hdropped, hloses.dropped_prefix, ?_, ⟨hloses.eq_of_dropped_eq, fun h => h ▸ rfl⟩, ?_⟩
  · rw [hdropped, List.append_assoc, List.append_assoc]
    exact List.append_left_inj _
  · intro hcomplete
    simp only [Outcome.isComplete, Bool.and_eq_true, List.isEmpty_iff] at hcomplete
    rw [hcomplete.1, hcomplete.2, List.append_nil, List.append_nil] at hdropped
    obtain ⟨cs', hloses'⟩ := matchBatch_loses (o := o) start
    rw [← hafter] at hloses'
    exact hloses'.eq_of_dropped_eq hdropped

end Batch

/-! ## A loss that no outcome names -/

/-- A layout with tags by key, whose tag tables are not widened. -/
def Options.narrow : Options :=
  { Options.plain with tagsAsForeignKeys := true, tagTableAddColumnTemplates := [] }

theorem Options.hasFixedColumns_narrow : narrow.HasFixedColumns := by
  obtain ⟨timeRole, timeType, tagIdRole, tagIdType, tagId, tagsJson, fieldsJson⟩ :=
    hasFixedColumns_plain
  exact ⟨timeRole, timeType, tagIdRole, tagIdType, tagId, tagsJson, fieldsJson⟩

def TableBatch.tagged : TableBatch :=
  TableBatch.push .narrow { name := "cpu" }
    { name := "cpu"
      tags := KeyMap.empty.insert "host" "a"
      fields := KeyMap.empty.insert "usage" (.int 1)
      timestamp := default }

/-- The tag table has no column for the tag. The connection breaks while the metric table is
created, which somebody else creates at the same time. -/
def interruptedWork : Work MemoryStore where
  manager :=
    { store :=
        { tables := KeyMap.empty.insert ("", "cpu_tag") [{ name := "tag_id", type := "bigint" }]
          nextFailures := [.connection "reset"]
          otherWrites := [(("", "cpu"),
            [{ name := "time", type := "timestamp without time zone" },
              { name := "tag_id", type := "bigint" }, { name := "usage", type := "bigint" }])] } }
  batch := .tagged

/-- The run is evaluated once, for what it answers and for what it leaves. -/
theorem run_interruptedWork :
    ((matchWithRetry .narrow 1 interruptedWork).1,
      (matchWithRetry .narrow 1 interruptedWork).2.batch.dropped) =
        (.ok {}, [⟨"host", .tag, .text⟩]) := by cbv

theorem matchWithRetry_interruptedWork :
    (matchWithRetry .narrow 1 interruptedWork).1 = .ok {} := congrArg Prod.fst run_interruptedWork

theorem dropped_interruptedWork : (matchWithRetry .narrow 1 interruptedWork).2.batch.dropped =
    [⟨"host", .tag, .text⟩] := congrArg Prod.snd run_interruptedWork

/-- The outcome is complete, but the tag and its record are gone. -/
theorem complete_without_host : ∃ outcome : Outcome,
    (matchWithRetry .narrow 1 interruptedWork).1 = .ok outcome ∧ outcome.isComplete = true ∧
      (matchWithRetry .narrow 1 interruptedWork).2.batch.dropped ≠
        interruptedWork.batch.dropped ++ outcome.tagTableMissing ++ outcome.metricTableMissing ∧
      interruptedWork.batch.recordCount = 1 ∧
      (matchWithRetry .narrow 1 interruptedWork).2.batch.recordCount = 0 := by
  refine ⟨{}, matchWithRetry_interruptedWork, rfl, ?_, by cbv, by cbv⟩
  rw [dropped_interruptedWork]
  exact List.cons_ne_nil _ _

theorem matchWithRetry_dropped_tagged : ∃ before : TableBatch,
    (matchWithRetry .narrow 1 interruptedWork).2.batch.dropped = before.dropped ++ [] ++ [] ∧
      (before.dropped = interruptedWork.batch.dropped ↔ before = interruptedWork.batch) := by
  obtain ⟨hdropped, _, _, hsame, _⟩ := matchWithRetry_dropped Options.hasFixedColumns_narrow 1
    interruptedWork (.push _ (.new _)) matchWithRetry_interruptedWork
  exact ⟨_, hdropped, hsame⟩

end MetricTables
