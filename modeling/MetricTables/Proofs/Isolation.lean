import MetricTables.Proofs.Creation

/-!
# Tables beside each other

All batches of some records share a store, a cache and the names of tables. Still each is
matched as if its records were the only ones, unless its table is the tag table of another
batch: then it comes to a table with the columns of that, and may lose columns that it would have
alone.

## Main definitions

* `TableBatch.batches` — the batches of some records, in the order of their tables.
* `Matching.Answer` — what comes of a batch.
* `Matching.matchEach`, `Matching.matchRecords` — match batches one after the other.

## Main statements

* `Matching.matchEach_changesIn` — batches change nothing but their tables.
* `Matching.matchEach_between` — a batch among others that are about other tables.
* `Matching.matchEach_isolated` — a table is matched as if no other were there.
* `Matching.matchBatch_taken` — what a batch loses whose table is a tag table.
-/

namespace MetricTables

/-! ## Names and batches -/

namespace Options

variable {o : Options} {table other : String}

theorem tagTableName_inj : o.tagTableName table = o.tagTableName other ↔ table = other := by
  simp [tagTableName]

/-- A tag table does not come before its metric table. -/
theorem not_tagTableName_lt (o : Options) (table : String) : ¬ o.tagTableName table < table := by
  rw [tagTableName, String.lt_iff_toList_lt, String.toList_append]
  exact List.not_lt.2 List.le_append_left

end Options

namespace TableBatch

variable {o : Options} {ms : List Metric} {b : TableBatch} {table : String}

/-- The batches of some records, in the order of their tables. -/
def batches (o : Options) (ms : List Metric) : List TableBatch := (ofMetrics o ms).entries.map (·.2)

/-- Every batch that records make up is a valid one of the table it is kept under. -/
theorem ofMetrics_valid (h : (ofMetrics o ms).find? table = some b) :
    b.Valid o ∧ b.name = table ∧ ∃ m ∈ ms, m.name = table := by
  rw [find?_ofMetrics] at h
  split at h
  · cases h
  next hne =>
    obtain rfl := Option.some.inj h
    obtain ⟨_, hvalid, hname⟩ := derived_foldl o table (ms.filter (·.name == table))
    obtain ⟨m, hm⟩ := List.exists_mem_of_ne_nil _ hne
    obtain ⟨hm, hmname⟩ := List.mem_filter.1 hm
    exact ⟨hvalid, hname, m, hm, by simpa using hmname⟩

/-- The table of a record has a batch. -/
theorem exists_batch (h : ∃ m ∈ ms, m.name = table) :
    ∃ b, (ofMetrics o ms).find? table = some b := by
  obtain ⟨m, hm, hname⟩ := h
  have hne : ms.filter (·.name == table) ≠ [] :=
    List.ne_nil_of_mem (List.mem_filter.2 ⟨hm, by simp [hname]⟩)
  exact ⟨_, by rw [find?_ofMetrics, if_neg hne]⟩

theorem find?_of_mem_batches (h : b ∈ batches o ms) : (ofMetrics o ms).find? b.name = some b := by
  obtain ⟨⟨table, b⟩, hentry, rfl⟩ := List.mem_map.1 h
  have hfind := KeyMap.find?_eq_some_iff.2 hentry
  rwa [(ofMetrics_valid hfind).2.1]

theorem mem_batches (h : b ∈ batches o ms) : b.Valid o ∧ ∃ m ∈ ms, m.name = b.name := by
  obtain ⟨hvalid, _, hm⟩ := ofMetrics_valid (find?_of_mem_batches h)
  exact ⟨hvalid, hm⟩

/-- The batch of a table stands behind those of the tables before it. -/
theorem batches_split (h : (ofMetrics o ms).find? table = some b) :
    ∃ before after, batches o ms = before ++ b :: after ∧
      (∀ b' ∈ before, b'.name < table) ∧ ∀ b' ∈ after, table < b'.name := by
  obtain ⟨before, after, hsplit⟩ := List.append_of_mem (KeyMap.find?_eq_some_iff.1 h)
  have hname : ∀ e ∈ (ofMetrics o ms).entries, e.2.name = e.1 := fun e he =>
    (ofMetrics_valid (KeyMap.find?_eq_some_iff.2 he)).2.1
  have hsorted := (ofMetrics o ms).increasing
  rw [hsplit, List.pairwise_append, List.pairwise_cons] at hsorted
  obtain ⟨_, ⟨hafter, _⟩, hbefore⟩ := hsorted
  refine ⟨before.map (·.2), after.map (·.2), by simp [batches, hsplit], fun b' hb' => ?_,
    fun b' hb' => ?_⟩
  · obtain ⟨e, he, rfl⟩ := List.mem_map.1 hb'
    rw [hname e (by simp [hsplit, he])]
    exact hbefore e he _ List.mem_cons_self
  · obtain ⟨e, he, rfl⟩ := List.mem_map.1 hb'
    rw [hname e (by simp [hsplit, he])]
    exact hafter e he

/-- The records of a table alone make its batch and no other. -/
theorem batches_filter (h : (ofMetrics o ms).find? table = some b) :
    batches o (ms.filter (·.name == table)) = [b] := by
  have hsingle : ofMetrics o (ms.filter (·.name == table)) = KeyMap.empty.insert table b := by
    refine KeyMap.ext_find? fun other => ?_
    rw [find?_ofMetrics, List.filter_filter]
    by_cases hother : other = table
    · rw [hother, KeyMap.find?_insert_self, ← h, find?_ofMetrics]
      simp only [Bool.and_self]
    · have hnone : ms.filter (fun m => m.name == other && m.name == table) = [] := by
        refine List.filter_eq_nil_iff.2 fun m _ => ?_
        simp only [Bool.and_eq_true, beq_iff_eq, not_and]
        exact fun hm => hm ▸ hother
      rw [if_pos hnone, KeyMap.find?_insert_of_ne _ hother]
      rfl
  rw [batches, hsingle]
  rfl

end TableBatch

/-! ## Batches one after the other -/

namespace Manager

variable {o : Options} {P Q : TablePlace → Prop} {m m' : Manager MemoryStore}

/-- Changes elsewhere are not seen, unless a failure is used up. -/
theorem ChangesIn.sameAt (h : ChangesIn o Q m m') (hwrites : m.store.otherWrites = [])
    (hnext : m.store.nextFailures = []) (hPQ : ∀ p, P p → ¬ Q p) : SameAt o P m m' where
  store :=
    { tables := fun p hp => (h.store.tables p (hPQ p hp)).symm
      isOffline := h.store.isOffline.symm
      nextFailures := by
        have hsuffix := h.store.nextFailures
        rw [hnext] at hsuffix ⊢
        exact (List.suffix_nil.1 hsuffix).symm
      textFailures := h.store.textFailures.symm
      latency := h.store.latency.symm
      otherWrites := hwrites
      otherWrites' := h.store.otherWrites }
  definition _ hp := (h.alike (hPQ _ hp)).2.symm

end Manager

namespace Matching

open TableBatch

variable {o : Options} {b : TableBatch} {bs : List TableBatch} {table : String}

/-- What comes of a batch: the result, and what is left of it. -/
structure Answer where
  result : Except SchemaError Outcome
  batch : TableBatch

/-- Matches batches one after the other. -/
def matchEach {σ : Type} [Store σ] (o : Options) :
    List TableBatch → Manager σ → List Answer × Manager σ
  | [], manager => ([], manager)
  | b :: bs, manager =>
    let (result, w) := matchBatch o { manager, batch := b }
    let (answers, manager) := matchEach o bs w.manager
    ({ result, batch := w.batch } :: answers, manager)

/-- Matches the batches of some records in the order of their tables. -/
def matchRecords {σ : Type} [Store σ] (o : Options) (ms : List Metric) (m : Manager σ) :
    List Answer × Manager σ := matchEach o (batches o ms) m

theorem isAbout_iff {p : TablePlace} : IsAbout o b p ↔ p = (o.namespaceName, b.name) ∨
    o.tagsAsForeignKeys = true ∧ p = (o.namespaceName, o.tagTableName b.name) := by
  obtain ⟨n, t⟩ := p
  unfold IsAbout tables tagTable?
  cases o.tagsAsForeignKeys <;> simp [and_or_left]

section Apart

variable {b' : TableBatch} (hne : b'.name ≠ b.name)
include hne

/-- A batch is not about the table of another one, unless that is its tag table. -/
theorem not_isAbout_table (hfree : o.tagsAsForeignKeys = true → o.tagTableName b'.name ≠ b.name) :
    ¬ IsAbout o b' (o.namespaceName, b.name) := by
  rw [isAbout_iff]
  rintro (he | ⟨hkeys, he⟩)
  · exact hne (Prod.mk.inj he).2.symm
  · exact hfree hkeys (Prod.mk.inj he).2.symm

/-- A batch is not about the tag table of another one, unless that is its table. -/
theorem not_isAbout_tagTable (hfree : b'.name ≠ o.tagTableName b.name) :
    ¬ IsAbout o b' (o.namespaceName, o.tagTableName b.name) := by
  rw [isAbout_iff]
  rintro (he | ⟨_, he⟩)
  · exact hfree (Prod.mk.inj he).2.symm
  · exact hne (Options.tagTableName_inj.1 (Prod.mk.inj he).2).symm

end Apart

/-- Tables before that of a batch are others than its tables, as long as its own is no tag table of
theirs. -/
theorem isAbout_apart {b' : TableBatch} (hlt : b'.name < b.name)
    (hfree : o.tagsAsForeignKeys = true → o.tagTableName b'.name ≠ b.name) {p : TablePlace}
    (hp : IsAbout o b p) : ¬ IsAbout o b' p := by
  have hne : b'.name ≠ b.name := KeyMap.apart_iff.1 (.inr hlt)
  rcases isAbout_iff.1 hp with rfl | ⟨_, rfl⟩
  · exact not_isAbout_table hne hfree
  · exact not_isAbout_tagTable hne fun he => Options.not_tagTableName_lt o b.name (he ▸ hlt)

section Each

variable {σ : Type} [Store σ]

theorem matchEach_cons (b : TableBatch) (bs : List TableBatch) (m : Manager σ) :
    (matchEach o (b :: bs) m).1 =
      { result := (matchBatch o { manager := m, batch := b }).1
        batch := (matchBatch o { manager := m, batch := b }).2.batch } ::
          (matchEach o bs (matchBatch o { manager := m, batch := b }).2.manager).1 := rfl

theorem matchEach_append (bs bs' : List TableBatch) (m : Manager σ) :
    (matchEach o (bs ++ bs') m).1 =
        (matchEach o bs m).1 ++ (matchEach o bs' (matchEach o bs m).2).1 ∧
      (matchEach o (bs ++ bs') m).2 = (matchEach o bs' (matchEach o bs m).2).2 := by
  induction bs generalizing m with
  | nil => exact ⟨rfl, rfl⟩
  | cons b bs ih =>
    obtain ⟨hanswers, hmanager⟩ := ih (matchBatch o { manager := m, batch := b }).2.manager
    exact ⟨congrArg (List.cons _) hanswers, hmanager⟩

/-- What is left of a batch has its name. -/
theorem names_matchEach (bs : List TableBatch) (m : Manager σ) :
    (matchEach o bs m).1.map (·.batch.name) = bs.map TableBatch.name := by
  induction bs generalizing m with
  | nil => rfl
  | cons b bs ih =>
    obtain ⟨cs, hloses⟩ := matchBatch_loses (o := o) { manager := m, batch := b }
    exact congrArg₂ List.cons hloses.name_eq (ih _)

end Each

section Plain

variable (ho : o.HasTypes) (ht : o.HasDefaultTemplates)
include ho ht

/-- Batches change nothing but their tables. -/
theorem matchEach_changesIn {P : TablePlace → Prop} (hbs : ∀ b ∈ bs, b.Valid o)
    (hP : ∀ b ∈ bs, ∀ p, IsAbout o b p → P p) (m : Manager MemoryStore)
    (hwrites : m.store.otherWrites = []) : m.ChangesIn o P (matchEach o bs m).2 := by
  induction bs generalizing m with
  | nil => exact .refl o P hwrites
  | cons b bs ih =>
    have hfirst := matchBatch_changesIn ho ht (w := { manager := m, batch := b })
      (hbs b List.mem_cons_self) (hP b List.mem_cons_self) hwrites
    exact hfirst.trans (ih (fun b' hb' => hbs b' (List.mem_cons_of_mem _ hb'))
      (fun b' hb' => hP b' (List.mem_cons_of_mem _ hb')) _ hfirst.store.otherWrites)

/-- A batch among others, of which those before it are about other tables, gives the same as the
batch alone. The batches behind it may change its tables only where they are about them. -/
theorem matchEach_between {before after : List TableBatch} (hbefore : ∀ b' ∈ before, b'.Valid o)
    (hb : b.Valid o) (hafter : ∀ b' ∈ after, b'.Valid o)
    (hapart : ∀ b' ∈ before, ∀ p, IsAbout o b p → ¬ IsAbout o b' p) (m : Manager MemoryStore)
    (hwrites : m.store.otherWrites = []) (hnext : m.store.nextFailures = []) :
    let all := matchEach o (before ++ b :: after) m
    let alone := matchBatch o { manager := m, batch := b }
    (∃ earlier later, all.1 = earlier ++ { result := alone.1, batch := alone.2.batch } :: later ∧
      earlier.map (·.batch.name) = before.map TableBatch.name) ∧
    ∀ p, IsAbout o b p → (∀ b' ∈ after, ¬ IsAbout o b' p) →
      all.2.store.tables.find? p = alone.2.manager.store.tables.find? p := by
  intro all alone
  let m₁ := (matchEach o before m).2
  let beside := matchBatch o { manager := m₁, batch := b }
  have hchanges : m.ChangesIn o (fun p => ∃ b' ∈ before, IsAbout o b' p) m₁ :=
    matchEach_changesIn ho ht hbefore (fun b' hb' p hp => ⟨b', hb', hp⟩) m hwrites
  have hsame : m.SameAt o (IsAbout o b) m₁ :=
    hchanges.sameAt hwrites hnext fun p hp ⟨b', hb', hp'⟩ => hapart b' hb' p hp hp'
  obtain ⟨hanswer, hmanager, hbatch, _⟩ := matchBatch_sameAt ho ht (b := b) (fun _ hp => hp)
    { manager := m, batch := b } { manager := m₁, batch := b } ⟨hsame, rfl, hb, rfl⟩
  have hbehind : beside.2.manager.ChangesIn o (fun p => ∃ b' ∈ after, IsAbout o b' p)
      (matchEach o after beside.2.manager).2 :=
    matchEach_changesIn ho ht hafter (fun b' hb' p hp => ⟨b', hb', hp⟩) _
      hmanager.store.otherWrites'
  obtain ⟨hanswers, hend⟩ := matchEach_append (o := o) before (b :: after) m
  refine ⟨⟨(matchEach o before m).1, (matchEach o after beside.2.manager).1, ?_,
    names_matchEach before m⟩, fun p hp hleft => ?_⟩
  · have hown : (⟨alone.1, alone.2.batch⟩ : Answer) = ⟨beside.1, beside.2.batch⟩ :=
      congrArg₂ Answer.mk hanswer hbatch
    rw [hown]
    exact hanswers
  · calc all.2.store.tables.find? p
        = (matchEach o after beside.2.manager).2.store.tables.find? p := by rw [hend]; rfl
      _ = beside.2.manager.store.tables.find? p :=
          hbehind.store.tables p fun ⟨b', hb', hp'⟩ => hleft b' hb' hp'
      _ = alone.2.manager.store.tables.find? p := (hmanager.store.tables p hp).symm

/-- A table is matched as if no other were there, unless it is the tag table of another one: the
result is the same, what is left of its batch is the same, and it has the same columns in the
end. So has its tag table, unless another table is that. -/
theorem matchEach_isolated (ms : List Metric) (m : Manager MemoryStore)
    (hwrites : m.store.otherWrites = []) (hnext : m.store.nextFailures = []) {table : String}
    (htable : ∃ x ∈ ms, x.name = table)
    (hfree : o.tagsAsForeignKeys = true →
      ∀ x ∈ ms, x.name ≠ table → o.tagTableName x.name ≠ table) :
    let all := matchRecords o ms m
    let own := matchRecords o (ms.filter (·.name == table)) m
    (∃ answer, own.1 = [answer] ∧ all.1.find? (·.batch.name == table) = some answer) ∧
    all.2.store.tables.find? (o.namespaceName, table) =
      own.2.store.tables.find? (o.namespaceName, table) ∧
    (o.tagsAsForeignKeys = true →
      (∀ x ∈ ms, x.name ≠ table → x.name ≠ o.tagTableName table) →
        all.2.store.tables.find? (o.namespaceName, o.tagTableName table) =
          own.2.store.tables.find? (o.namespaceName, o.tagTableName table)) := by
  intro all own
  obtain ⟨b, hfind⟩ := exists_batch (o := o) htable
  obtain ⟨hb, rfl, -⟩ := ofMetrics_valid hfind
  obtain ⟨before, after, hsplit, hbefore, hafter⟩ := batches_split hfind
  have hothers : ∀ b' ∈ before ++ after, b'.Valid o ∧ ∃ x ∈ ms, x.name = b'.name := by
    intro b' hb'
    refine mem_batches (hsplit ▸ List.mem_append.2 ?_)
    exact (List.mem_append.1 hb').imp_right (List.mem_cons_of_mem b)
  have hapart : ∀ b' ∈ before, ∀ p, IsAbout o b p → ¬ IsAbout o b' p := by
    intro b' hb' p
    obtain ⟨x, hx, hname⟩ := (hothers b' (List.mem_append_left _ hb')).2
    have hne : x.name ≠ b.name := hname ▸ KeyMap.apart_iff.1 (.inr (hbefore b' hb'))
    exact isAbout_apart (hbefore b' hb') fun hkeys => hname ▸ hfree hkeys x hx hne
  obtain ⟨⟨earlier, later, hanswers, hnames⟩, htables⟩ := matchEach_between ho ht
    (fun b' hb' => (hothers b' (List.mem_append_left _ hb')).1) hb
    (fun b' hb' => (hothers b' (List.mem_append_right _ hb')).1) hapart m hwrites hnext
  rw [← hsplit] at hanswers htables
  have hone : own = matchEach o [b] m := congrArg (matchEach o · m) (batches_filter hfind)
  rw [hone]
  refine ⟨⟨_, rfl, ?_⟩, htables _ (isAbout_iff.2 (.inl rfl)) fun b' hb' => ?_,
    fun hkeys hunused => htables _ (isAbout_iff.2 (.inr ⟨hkeys, rfl⟩)) fun b' hb' => ?_⟩
  · obtain ⟨cs, hloses⟩ := matchBatch_loses (o := o) { manager := m, batch := b }
    refine List.find?_eq_some_iff_append.2
      ⟨beq_iff_eq.2 hloses.name_eq, earlier, later, hanswers, fun answer hanswer => ?_⟩
    have hname : answer.batch.name ∈ before.map TableBatch.name :=
      hnames ▸ List.mem_map_of_mem (f := fun a : Answer => a.batch.name) hanswer
    obtain ⟨b', hb', hname⟩ := List.mem_map.1 hname
    have hne : b'.name ≠ b.name := KeyMap.apart_iff.1 (.inr (hbefore b' hb'))
    simpa [← hname] using hne
  · have hne : b'.name ≠ b.name := KeyMap.apart_iff.1 (.inl (hafter b' hb'))
    refine not_isAbout_table hne fun _ he => ?_
    exact Options.not_tagTableName_lt o b'.name (he ▸ hafter b' hb')
  · have hne : b'.name ≠ b.name := KeyMap.apart_iff.1 (.inl (hafter b' hb'))
    obtain ⟨x, hx, hname⟩ := (hothers b' (List.mem_append_right _ hb')).2
    exact not_isAbout_tagTable hne fun he => hunused x hx (hname ▸ hne) (hname.trans he)

end Plain

def emptyManager : Manager MemoryStore where
  store := {}

def neighbours : List Metric :=
  [recordOf [("host", "a")], { recordOf [("host", "b")] with name := "mem" }]

theorem matchEach_isolated_neighbours : keyed.HasTypes ∧ keyed.HasDefaultTemplates ∧
    emptyManager.store.otherWrites = [] ∧ emptyManager.store.nextFailures = [] ∧
    (∃ x ∈ neighbours, x.name = "mem") ∧
    (∀ x ∈ neighbours, x.name ≠ "mem" → keyed.tagTableName x.name ≠ "mem") ∧
    (∀ x ∈ neighbours, x.name ≠ "mem" → x.name ≠ "mem_tag") ∧
    let all := matchRecords keyed neighbours emptyManager
    let own := matchRecords keyed (neighbours.filter (·.name == "mem")) emptyManager
    (∃ answer, own.1 = [answer] ∧ all.1.find? (·.batch.name == "mem") = some answer) ∧
      all.2.store.tables.find? ("", "mem_tag") = own.2.store.tables.find? ("", "mem_tag") := by
  have ho : keyed.HasTypes := hasTypes_keyed
  have ht : keyed.HasDefaultTemplates := hasDefaultTemplates_keyed
  have hmem : ∃ x ∈ neighbours, x.name = "mem" := by decide +kernel
  have hfree : ∀ x ∈ neighbours, x.name ≠ "mem" → keyed.tagTableName x.name ≠ "mem" := by
    decide +kernel
  have hunused : ∀ x ∈ neighbours, x.name ≠ "mem" → x.name ≠ "mem_tag" := by decide +kernel
  obtain ⟨hanswer, _, htag⟩ :=
    matchEach_isolated ho ht neighbours emptyManager rfl rfl hmem fun _ => hfree
  exact ⟨ho, ht, rfl, rfl, hmem, hfree, hunused, hanswer, htag rfl hunused⟩

/-! ## A metric table that is a tag table as well -/

section Taken

variable {b' : TableBatch} {m : Manager MemoryStore}

/-- A batch whose table is there as the tag table of another batch loses what does not go with the
tags of that. -/
theorem matchBatch_taken (ho : o.HasFixedColumns) (ht : o.HasDefaultTemplates) (hb : b.Valid o)
    (hb' : b'.Valid o) (hfits : Fits o b) (hfits' : Fits o b')
    (htable : tagTable? o b = some b'.name) (hquiet : m.store.IsQuiet o)
    (hhas : m.Has o (tagRequest o b b'.name))
    (hnew : ∀ tagTable ∈ tagTable? o b', m.Lacks o tagTable) {outcome : Outcome}
    (h : (matchBatch o { manager := m, batch := b' }).1 = .ok outcome) :
    outcome.metricTableMissing = (metricRequest o b').refused o
      ((Column.sort (b.tagTableColumns o)).map Column.marked) := by
  obtain ⟨m₁, htag, hquiet₁, _, hothers⟩ := matchTagTable_creates
    (w := { manager := m, batch := b' }) ho ht hb' hfits' hquiet hnew
  have hhas₁ := hhas.of_alike (hothers b'.name fun htable' => hfits'.ne_tagTable htable' rfl)
  have hanswer := hhas₁.ensure_answer (r := metricRequest o b') rfl
    (fits_tagRequest ho hb hfits htable) (fun c hc => recovered_tagTableColumns ho hb hc)
    (Options.createTemplates_eq ht) (Options.addColumnTemplates_eq ht) (nodup_metricColumns ho hb')
    (fun c hc => recovered_metricColumns ho hb' hc) hquiet₁
  rcases matchBatch_cases (o := o) { manager := m, batch := b' } with
    ⟨⟨_, herror⟩, _⟩ | ⟨_, _, _, hok⟩
  · cases herror.symm.trans h
  · obtain ⟨missing, hmissing, rfl⟩ := hok outcome h
    rw [htag] at hmissing
    obtain ⟨_, _, _, hall⟩ := run_matchTable (metricRequest o) { manager := m₁, batch := b' }
    exact Except.ok.inj ((hall missing hmissing).1.symm.trans hanswer)

end Taken

/-- A record of a table that has the name of another one's tag table. -/
def tagTableRecord : Metric where
  name := "cpu_tag"
  tags := .empty
  fields := KeyMap.empty.insert "host" (.int 1)
  timestamp := default

/-- A record with a tag, and one with a field of that name, of the table that keeps the tags of the
first. -/
def clash : List Metric := [recordOf [("host", "a")], tagTableRecord]

def cpuBatch : TableBatch := TableBatch.push keyed { name := "cpu" } (recordOf [("host", "a")])

def cpuTagBatch : TableBatch := TableBatch.push keyed { name := "cpu_tag" } tagTableRecord

theorem fits_cpuBatch : Fits keyed cpuBatch where
  tables := by decide
  columns := by
    rintro c (hc | hc)
    · revert c
      decide
    · revert c
      decide
  apart := by decide

theorem fits_cpuTagBatch : Fits keyed cpuTagBatch where
  tables := by decide
  columns := by
    rintro c (hc | hc)
    · revert c
      decide
    · revert c
      decide
  apart := by decide

theorem refused_clash : (metricRequest keyed cpuTagBatch).refused keyed
    ((Column.sort (cpuBatch.tagTableColumns keyed)).map Column.marked) =
      [⟨"host", .field, .bigInt⟩] := by cbv

/-- A batch whose names are short loses nothing on an empty store. -/
theorem matchBatch_emptyManager {b : TableBatch} (hb : b.Valid keyed) (hfits : Fits keyed b) :
    ∃ m', matchBatch keyed { manager := emptyManager, batch := b } =
        (.ok {}, { manager := m', batch := b }) ∧ m'.store.IsQuiet keyed ∧
      (∀ r ∈ requests keyed b, m'.Has keyed r) ∧
      ∀ table ∉ tables keyed b, m'.Lacks keyed table := by
  have ho := hasFixedColumns_keyed
  have ht := hasDefaultTemplates_keyed
  have hquiet : emptyManager.store.IsQuiet keyed := ⟨⟨rfl, rfl, rfl⟩, rfl, by decide⟩
  have hempty : ∀ table, emptyManager.Lacks keyed table := fun _ => ⟨rfl, rfl⟩
  obtain ⟨m', hrun, hquiet', hhas⟩ := matchBatch_creates
    (w := { manager := emptyManager, batch := b }) ho ht hb hfits hquiet fun table _ => hempty table
  have hchanges := matchBatch_changesIn ho.hasTypes ht (P := IsAbout keyed b)
    (w := { manager := emptyManager, batch := b }) hb (fun _ hp => hp) rfl
  rw [hrun] at hchanges
  exact ⟨m', hrun, hquiet', hhas, fun table htable =>
    (hempty table).of_alike (hchanges.alike fun habout => htable habout.2)⟩

/-- Alone the second record loses nothing. Behind the first one it loses its field. -/
theorem matchEach_clash : keyed.HasTypes ∧ keyed.HasDefaultTemplates ∧
    (∃ x ∈ clash, x.name = "cpu_tag") ∧
    let all := matchRecords keyed clash emptyManager
    let own := matchRecords keyed (clash.filter (·.name == "cpu_tag")) emptyManager
    ¬ ∃ answer, own.1 = [answer] ∧ all.1.find? (·.batch.name == "cpu_tag") = some answer := by
  have ho := hasFixedColumns_keyed
  have ht := hasDefaultTemplates_keyed
  refine ⟨hasTypes_keyed, ht, ⟨tagTableRecord, by simp [clash], rfl⟩, ?_⟩
  rintro all own ⟨answer, hown, hall⟩
  have hb : cpuBatch.Valid keyed := (Built.push _ (.new _)).valid
  have hb' : cpuTagBatch.Valid keyed := (Built.push _ (.new _)).valid
  obtain ⟨_, halone, _⟩ := matchBatch_emptyManager hb' fits_cpuTagBatch
  obtain ⟨m, hfirst, hquiet, hhas, hlacks⟩ := matchBatch_emptyManager hb fits_cpuBatch
  let second := matchBatch keyed { manager := m, batch := cpuTagBatch }
  have hcomplete : answer.result = .ok {} := by
    have hone : own = matchEach keyed [cpuTagBatch] emptyManager := rfl
    rw [hone, matchEach_cons, halone] at hown
    exact (List.cons.inj hown).1 ▸ rfl
  have hanswer : answer = { result := second.1, batch := second.2.batch } := by
    have hboth : all = matchEach keyed [cpuBatch, cpuTagBatch] emptyManager := rfl
    rw [hboth, matchEach_cons, hfirst] at hall
    rcases List.mem_cons.1 (List.mem_of_find?_eq_some hall) with rfl | hmem
    · have hname : cpuBatch.name = "cpu_tag" := by simpa using List.find?_some hall
      exact absurd hname (by decide)
    · exact List.mem_singleton.1 hmem
  have hmissing := matchBatch_taken ho ht hb hb' fits_cpuBatch fits_cpuTagBatch rfl hquiet
    (hhas _ (tagRequest_mem_requests rfl)) (fun tagTable htable => hlacks tagTable ?_)
    (show second.1 = .ok {} from (congrArg Answer.result hanswer).symm.trans hcomplete)
  · rw [refused_clash] at hmissing
    cases hmissing
  · obtain rfl := Option.some.inj htable
    decide +kernel

end Matching
end MetricTables
