import MetricTables.Matching
import MetricTables.Proofs.Batch
import MetricTables.Proofs.Reconcile.Defaults
import MetricTables.Proofs.Reconcile.Frame

/-!
# Matching beside other users

A cache that tracks its store goes on doing so while batches are matched, and a batch that
was matched with success needs no column that its tables do not hold. Both hold whatever
fails and whatever others do, as long as they only widen tables.

## Main definitions

* `Manager.Tracks` — every definition that is kept tracks its table.
* `TableBatch.Loses` — a batch comes from another one by giving up columns.

## Main statements

* `ensure_does` — what bringing a table in step does to a store and a cache.
* `matchBatch_does` — what matching a batch does.
-/

namespace MetricTables

open SharedStore

variable {o : Options}

/-! ## One table -/

namespace Cache

@[simp] theorem definition_put_self (c : Cache) (table : String) (d : Definition) :
    (c.put table d).definition table = d := by
  rw [definition_put, if_neg fun h => h.elim (KeyOrder.irrefl table) (KeyOrder.irrefl table)]

theorem definition_put_of_ne (c : Cache) {table other : String} (h : other ≠ table)
    (d : Definition) : (c.put table d).definition other = c.definition other := by
  rw [definition_put, if_pos]
  by_contra hnot
  exact h (KeyOrder.total (fun hlt => hnot (.inr hlt)) fun hlt => hnot (.inl hlt))

end Cache

namespace Manager

/-- Every definition that is kept tracks its table. -/
def Tracks (o : Options) (exact : Prop) (m : Manager SharedStore) : Prop :=
  ∀ table, (m.cache.definition table).Tracks o exact (m.store.columnsAt (o.namespaceName, table))

/-- What a request starts with. -/
def workspace (m : Manager SharedStore) (r : Request) : Workspace SharedStore where
  store := m.store
  elapsed := m.elapsed
  definition := m.cache.definition r.table

/-- What bringing a table in step may do to a store and a cache. -/
structure Ensured (quiet : Prop) (o : Options) (r : Request) (m : Manager SharedStore)
    (answer : Except SchemaError (List Column)) (m' : Manager SharedStore) : Prop where
  widens : m.store.tables.Widens m'.store.tables
  tracks : m.Tracks o quiet → m'.Tracks o quiet
  held : m.Tracks o quiet → ∀ missing, answer = .ok missing →
    ∀ c ∈ r.required, c ∉ missing → Held o (m'.store.columnsAt (r.place o)) c

/-- Other users may take their turn before every call of the request, as long as they are lawful. -/
theorem ensure_does (quiet : Prop) {r : Request} (hr : r.IsSound o [] [])
    (m : Manager SharedStore) :
    m.store.Later (m.ensure o r).2.store ∧
      ((m.ensure o r).2.store.Lawful quiet →
        Ensured quiet o r m (m.ensure o r).1 (m.ensure o r).2) := by
  obtain ⟨hlater, hdoes⟩ := @Request.does_ensure quiet quiet o r [] [] hr (fun hq => ⟨hq, rfl, rfl⟩)
    (m.workspace r)
  refine ⟨hlater, fun hl => ?_⟩
  have hhere := hdoes hl
  have helsewhere : ∀ q, q ≠ r.place o → Extends quiet True [] q m.store (m.ensure o r).2.store :=
    fun q hq => (ensure_elsewhere hr hq _).2 hl
  have htracks : m.Tracks o quiet → (m.ensure o r).2.Tracks o quiet := by
    intro h table
    by_cases htable : table = r.table
    · subst htable
      have hput := (hhere.definition (h r.table)).1
      show ((m.cache.put r.table _).definition r.table).Tracks _ _ _
      rw [Cache.definition_put_self]
      exact hput
    · have hq : ((o.namespaceName, table) : TablePlace) ≠ r.place o :=
        fun he => htable (congrArg Prod.snd he)
      show ((m.cache.put r.table _).definition table).Tracks _ _ _
      rw [Cache.definition_put_of_ne _ htable]
      exact (h table).mono (helsewhere _ hq).le fun hquiet => (helsewhere _ hq).columnsAt_eq hquiet
  refine ⟨fun q => ?_, htracks, fun h missing hmissing c hc hnot => ?_⟩
  · by_cases hq : q = r.place o
    · exact hq ▸ hhere.table.le
    · exact (helsewhere q hq).le
  · exact ((hhere.definition (h r.table)).2 missing hmissing).2 c hc hnot

end Manager

/-! ## Giving up columns -/

namespace TableBatch

/-- A batch comes from another one by giving up columns. -/
inductive Loses (o : Options) : TableBatch → List Column → TableBatch → Prop
  | nil (b : TableBatch) : Loses o b [] b
  | cons {b b₁ b' : TableBatch} {c : Column} {cs : List Column}
    (hdrop : b.dropColumn o c = .ok b₁) (h : Loses o b₁ cs b') : Loses o b (c :: cs) b'

namespace Loses

variable {b b₁ b' : TableBatch} {cs cs' : List Column}

theorem trans (h : Loses o b cs b₁) (h' : Loses o b₁ cs' b') : Loses o b (cs ++ cs') b' := by
  induction h with
  | nil b => exact h'
  | cons hdrop _ ih => exact .cons hdrop (ih h')

theorem valid (h : Loses o b cs b') (hb : b.Valid o) : b'.Valid o := by
  induction h with
  | nil b => exact hb
  | cons hdrop _ ih => exact ih (valid_dropColumn hb hdrop)

theorem name_eq (h : Loses o b cs b') : b'.name = b.name := by
  induction h with
  | nil b => rfl
  | cons hdrop _ ih => exact ih.trans (name_of_dropColumn hdrop)

/-- What is needed in the end was needed at the start and was not given up. -/
theorem required (ho : o.HasFixedColumns) (h : Loses o b cs b') (hb : b.Valid o) :
    (∀ d ∈ b'.metricColumns o, d ∈ b.metricColumns o ∧ d ∉ cs) ∧
      ∀ d ∈ b'.tagTableColumns o, d ∈ b.tagTableColumns o ∧ d ∉ cs := by
  induction h with
  | nil b => exact ⟨fun d hd => ⟨hd, List.not_mem_nil⟩, fun d hd => ⟨hd, List.not_mem_nil⟩⟩
  | cons hdrop _ ih =>
    obtain ⟨hmetric, htags⟩ := ih (valid_dropColumn hb hdrop)
    obtain ⟨hmetric', htags'⟩ := mem_of_dropColumn ho hb hdrop
    refine ⟨fun d hd => ?_, fun d hd => ?_⟩
    · obtain ⟨hd, hnot⟩ := hmetric d hd
      obtain ⟨hd, hne⟩ := hmetric' d hd
      exact ⟨hd, by simp [hne, hnot]⟩
    · obtain ⟨hd, hnot⟩ := htags d hd
      obtain ⟨hd, hne⟩ := htags' d hd
      exact ⟨hd, by simp [hne, hnot]⟩

end Loses

end TableBatch

namespace Matching

open TableBatch

theorem run_dropColumn {σ : Type} (c : Column) (w : Work σ) :
    dropColumn o c w = match w.batch.dropColumn o c with
      | .ok b => (.ok ⟨⟩, { w with batch := b })
      | .error e => (.error e, w) := by
  have hrun : (dropColumn o c : Matching σ PUnit) w =
      (match w.batch.dropColumn o c with
        | .ok b => (modify fun w : Work σ => { w with batch := b } : Matching σ PUnit)
        | .error e => throw e) w := rfl
  rw [hrun]
  cases w.batch.dropColumn o c <;> rfl

/-- Giving up columns leaves the manager alone. If it fails some of them are gone. -/
theorem dropColumns_loses {σ : Type} (missing : List Column) (w : Work σ) :
    (missing.forM (dropColumn o) w).2.manager = w.manager ∧
      ∃ cs, Loses o w.batch cs (missing.forM (dropColumn o) w).2.batch ∧
        ((missing.forM (dropColumn o) w).1 = .ok ⟨⟩ → cs = missing) := by
  induction missing generalizing w with
  | nil => exact ⟨rfl, [], .nil _, fun _ => rfl⟩
  | cons c cs ih =>
    have hfirst := run_dropColumn (o := o) c w
    have hcons : (c :: cs).forM (dropColumn o) = ((dropColumn o c : Matching σ PUnit) >>=
        fun _ => cs.forM (dropColumn o)) := rfl
    rw [hcons]
    cases hdrop : w.batch.dropColumn o c with
    | error e =>
      rw [hdrop] at hfirst
      rw [run_bind_of_error hfirst]
      exact ⟨rfl, [], .nil _, fun h => nomatch h⟩
    | ok b =>
      rw [hdrop] at hfirst
      rw [run_bind_of_ok hfirst]
      obtain ⟨hmanager, lost, hloses, hall⟩ := ih { w with batch := b }
      exact ⟨hmanager, c :: lost, .cons hdrop hloses, fun h => congrArg (c :: ·) (hall h)⟩

/-! ## One table of a batch -/

/-- A request for what a batch needs of a table: giving up a column takes it away. -/
structure Follows (o : Options) (request : TableBatch → Request) : Prop where
  sound : ∀ {b}, b.Valid o → (request b).IsSound o [] []
  table : ∀ {b b' cs}, Loses o b cs b' → (request b').table = (request b).table
  required : ∀ {b b' cs}, Loses o b cs b' → b.Valid o →
    ∀ d ∈ (request b').required, d ∈ (request b).required ∧ d ∉ cs

/-- What matching may do to a store, a cache and a batch, if others are lawful. -/
structure Matched (quiet : Prop) (o : Options) (w w' : Work SharedStore) : Prop where
  widens : w.manager.store.tables.Widens w'.manager.store.tables
  tracks : w.manager.Tracks o quiet → w'.manager.Tracks o quiet

theorem Matched.trans {quiet : Prop} {w w₁ w' : Work SharedStore} (h : Matched quiet o w w₁)
    (h' : Matched quiet o w₁ w') : Matched quiet o w w' :=
  ⟨h.widens.trans h'.widens, fun ht => h'.tracks (h.tracks ht)⟩

/-- The table of a request holds all columns that are required. -/
def Holds (o : Options) (r : Request) (s : SharedStore) : Prop :=
  ∀ c ∈ r.required, Held o (s.columnsAt (r.place o)) c

/-- Bringing a table in step changes nothing but the manager. -/
theorem run_ensure {σ : Type} [Store σ] {r : Request} {w : Work σ}
    {answer : Except SchemaError (List Column)} {m : Manager σ}
    (h : w.manager.ensure o r = (answer, m)) :
    (ensure o r : Matching σ (List Column)) w = (answer, { w with manager := m }) := by
  simp only [ensure, h]

/-- A table is brought in step first, and then the batch gives up what is missing. -/
theorem matchTable_eq {σ : Type} [Store σ] (request : TableBatch → Request) (w : Work σ) :
    matchTable o request w =
      ((ensure o (request w.batch) : Matching σ (List Column)) >>= fun missing =>
        missing.forM (dropColumn o) >>= fun _ => pure missing) w := rfl

/-- A table that misses nothing costs a batch nothing. -/
theorem matchTable_complete {σ : Type} [Store σ] {request : TableBatch → Request} {w : Work σ}
    {m' : Manager σ} (h : w.manager.ensure o (request w.batch) = (.ok [], m')) :
    matchTable o request w = (.ok [], { w with manager := m' }) := by
  rw [matchTable_eq, run_bind_of_ok (run_ensure h)]
  rfl

/-- The manager is what bringing the table in step leaves, and the batch loses what is given
up. -/
theorem run_matchTable {σ : Type} [Store σ] (request : TableBatch → Request) (w : Work σ) :
    (matchTable o request w).2.manager = (w.manager.ensure o (request w.batch)).2 ∧
      ∃ cs, Loses o w.batch cs (matchTable o request w).2.batch ∧
        ∀ missing, (matchTable o request w).1 = .ok missing →
          (w.manager.ensure o (request w.batch)).1 = .ok missing ∧ cs = missing := by
  rcases hanswer : w.manager.ensure o (request w.batch) with ⟨answer, m⟩
  have hfirst := run_ensure hanswer
  cases answer with
  | error e =>
    rw [matchTable_eq, run_bind_of_error hfirst]
    exact ⟨rfl, [], .nil _, fun _ h => nomatch h⟩
  | ok missing =>
    rw [matchTable_eq, run_bind_of_ok hfirst]
    obtain ⟨hmanager, cs, hloses, hall⟩ :=
      dropColumns_loses (o := o) missing { w with manager := m }
    rcases hdropped : missing.forM (dropColumn o) { w with manager := m } with ⟨answer, w'⟩
    rw [hdropped] at hmanager hloses hall
    cases answer with
    | error e =>
      rw [run_bind_of_error hdropped]
      exact ⟨hmanager, cs, hloses, fun _ h => nomatch h⟩
    | ok _ =>
      rw [run_bind_of_ok hdropped]
      refine ⟨hmanager, cs, hloses, fun missing' h => ?_⟩
      cases h
      exact ⟨rfl, hall rfl⟩

/-- What bringing one table of a batch in step does, beside any lawful users. -/
theorem matchTable_does (quiet : Prop) {request : TableBatch → Request}
    (hrequest : Follows o request)
    (w : Work SharedStore) (hw : w.batch.Valid o) :
    w.manager.store.Later (matchTable o request w).2.manager.store ∧
      (∃ cs, Loses o w.batch cs (matchTable o request w).2.batch) ∧
      ((matchTable o request w).2.manager.store.Lawful quiet →
        Matched quiet o w (matchTable o request w).2 ∧
        (w.manager.Tracks o quiet → ∀ missing, (matchTable o request w).1 = .ok missing →
          Holds o (request (matchTable o request w).2.batch)
            (matchTable o request w).2.manager.store)) := by
  obtain ⟨hlater, hensured⟩ :=
    Manager.ensure_does quiet (hrequest.sound hw) w.manager
  obtain ⟨hmanager, cs, hloses, hok⟩ := run_matchTable (o := o) request w
  have hplace : (request (matchTable o request w).2.batch).place o = (request w.batch).place o :=
    congrArg (Prod.mk o.namespaceName) (hrequest.table hloses)
  rw [← hmanager] at hlater hensured
  refine ⟨hlater, ⟨cs, hloses⟩, fun hl => ?_⟩
  obtain ⟨hwidens, htracks, hheld⟩ := hensured hl
  refine ⟨⟨hwidens, htracks⟩, fun h missing hmissing c hc => ?_⟩
  obtain ⟨hanswer, rfl⟩ := hok missing hmissing
  obtain ⟨hc, hnot⟩ := hrequest.required hloses hw c hc
  rw [hplace]
  exact hheld h _ hanswer c hc hnot

/-! ## Both tables of a batch -/

/-- The part of matching that is about the tag table, if there is one. -/
def matchTagTable {σ : Type} [Store σ] (o : Options) (b : TableBatch) : Matching σ (List Column) :=
  match tagTable? o b with
  | none => pure []
  | some tagTable => matchTable o fun b => tagRequest o b tagTable

/-- First the tag table, then the metric table. -/
theorem run_matchBatch {σ : Type} [Store σ] (w : Work σ) :
    matchBatch o w = (matchTagTable o w.batch >>= fun tagTableMissing =>
      matchTable o (metricRequest o) >>= fun metricTableMissing =>
        pure { tagTableMissing, metricTableMissing }) w := by
  let both : List Column → Matching σ Outcome := fun tagTableMissing =>
    matchTable o (metricRequest o) >>= fun metricTableMissing =>
      pure { tagTableMissing, metricTableMissing }
  have hrun : matchBatch o w = (match tagTable? o w.batch with
      | none => pure [] >>= both
      | some tagTable => (matchTable o fun b => tagRequest o b tagTable) >>= both) w := rfl
  rw [hrun, matchTagTable]
  cases tagTable? o w.batch <;> rfl

/-- Matching ends with the tag table, or it goes on with the metric table. -/
theorem matchBatch_cases {σ : Type} [Store σ] (w : Work σ) :
    ((∃ e, (matchBatch o w).1 = .error e) ∧
      (matchBatch o w).2 = (matchTagTable o w.batch w).2) ∨
    ∃ tagMissing, (matchTagTable o w.batch w).1 = .ok tagMissing ∧
      (matchBatch o w).2 = (matchTable o (metricRequest o) (matchTagTable o w.batch w).2).2 ∧
      ∀ outcome, (matchBatch o w).1 = .ok outcome → ∃ missing,
        (matchTable o (metricRequest o) (matchTagTable o w.batch w).2).1 = .ok missing ∧
          outcome = ⟨tagMissing, missing⟩ := by
  rw [run_matchBatch]
  rcases hfirst : matchTagTable o w.batch w with ⟨answer, w₁⟩
  cases answer with
  | error e =>
    rw [run_bind_of_error hfirst]
    exact .inl ⟨⟨e, rfl⟩, rfl⟩
  | ok tagMissing =>
    rw [run_bind_of_ok hfirst]
    refine .inr ⟨tagMissing, rfl, ?_⟩
    rcases hsecond : matchTable o (metricRequest o) w₁ with ⟨answer, w'⟩
    cases answer with
    | error e =>
      rw [run_bind_of_error hsecond]
      exact ⟨rfl, fun _ h => nomatch h⟩
    | ok missing =>
      rw [run_bind_of_ok hsecond]
      exact ⟨rfl, fun _ h => ⟨missing, rfl, (Except.ok.inj h).symm⟩⟩

/-- Without a tag table, a batch whose metric table lacks nothing loses nothing. -/
theorem matchBatch_of_ensure {w : Work SharedStore} (hkeys : o.tagsAsForeignKeys = false)
    (hensure : (w.manager.ensure o (metricRequest o w.batch)).1 = .ok []) :
    (matchBatch o w).1 = .ok {} := by
  have htag : matchTagTable o w.batch w = (.ok [], w) := by
    rw [matchTagTable, tagTable?, hkeys]
    rfl
  have hmetric : matchTable o (metricRequest o) w = _ := matchTable_complete (Prod.ext hensure rfl)
  rw [run_matchBatch, run_bind_of_ok htag, run_bind_of_ok hmetric]
  rfl

section Batch

variable (ho : o.HasFixedColumns) (ht : o.HasDefaultTemplates)
include ho ht

theorem follows_metricRequest : Follows o (metricRequest o) where
  sound hb := Request.isSound_of_defaults (nodup_metricColumns ho hb)
    (fun c hc => recovered_metricColumns ho hb hc) (.inl rfl) (Options.createTemplates_eq ht)
    (Options.addColumnTemplates_eq ht) (by simp) (by simp)
  table hloses := hloses.name_eq
  required hloses hb := (hloses.required ho hb).1

theorem follows_tagRequest (tagTable : String) : Follows o fun b => tagRequest o b tagTable where
  sound hb := Request.isSound_of_defaults (nodup_tagTableColumns ho hb)
    (fun c hc => recovered_tagTableColumns ho hb hc) (.inr rfl)
    (Options.tagTableCreateTemplates_eq ht) (Options.tagTableAddColumnTemplates_eq ht)
    (by simp) (by simp)
  table _ := rfl
  required hloses hb := (hloses.required ho hb).2

/-- What the tag table cannot have is given up; the table holds what is left of the batch. -/
theorem matchTagTable_does (quiet : Prop) (w : Work SharedStore) (hw : w.batch.Valid o) :
    w.manager.store.Later (matchTagTable o w.batch w).2.manager.store ∧
      (∃ cs, Loses o w.batch cs (matchTagTable o w.batch w).2.batch) ∧
      ((matchTagTable o w.batch w).2.manager.store.Lawful quiet →
        Matched quiet o w (matchTagTable o w.batch w).2 ∧
        (w.manager.Tracks o quiet → ∀ missing, (matchTagTable o w.batch w).1 = .ok missing →
          ∀ tagTable, tagTable? o w.batch = some tagTable →
            Holds o (tagRequest o (matchTagTable o w.batch w).2.batch tagTable)
              (matchTagTable o w.batch w).2.manager.store)) := by
  unfold matchTagTable
  cases htable : tagTable? o w.batch with
  | none =>
    refine ⟨.refl _, ⟨[], .nil _⟩, fun _ => ⟨⟨.refl _, fun h => h⟩, ?_⟩⟩
    exact fun _ _ _ _ h => nomatch h
  | some tagTable =>
    obtain ⟨hlater, hloses, hlawful⟩ := matchTable_does quiet
      (follows_tagRequest ho ht tagTable) w hw
    refine ⟨hlater, hloses, fun hl => ⟨(hlawful hl).1, ?_⟩⟩
    intro h missing hmissing t hsome
    cases hsome
    exact (hlawful hl).2 h missing hmissing

/-- What matching a batch does to the store, the cache and the batch, beside any lawful
users. -/
theorem matchBatch_does (quiet : Prop) (w : Work SharedStore) (hw : w.batch.Valid o) :
    w.manager.store.Later (matchBatch o w).2.manager.store ∧
      (∃ cs, Loses o w.batch cs (matchBatch o w).2.batch) ∧
      ((matchBatch o w).2.manager.store.Lawful quiet →
        Matched quiet o w (matchBatch o w).2 ∧
        (w.manager.Tracks o quiet → ∀ outcome, (matchBatch o w).1 = .ok outcome →
          Holds o (metricRequest o (matchBatch o w).2.batch) (matchBatch o w).2.manager.store ∧
          ∀ tagTable, tagTable? o (matchBatch o w).2.batch = some tagTable →
            Holds o (tagRequest o (matchBatch o w).2.batch tagTable)
              (matchBatch o w).2.manager.store)) := by
  obtain ⟨hlater, ⟨cs, hloses⟩, hlawful⟩ := matchTagTable_does ho ht quiet w hw
  rcases matchBatch_cases (o := o) w with ⟨⟨e, herror⟩, hend⟩ | ⟨tagMissing, htag, hend, hok⟩
  · rw [hend, herror]
    exact ⟨hlater, ⟨cs, hloses⟩, fun hl => ⟨(hlawful hl).1, fun _ _ h => nomatch h⟩⟩
  · have hw₁ := hloses.valid hw
    obtain ⟨hlater', ⟨cs', hloses'⟩, hlawful'⟩ :=
      matchTable_does quiet (follows_metricRequest ho ht) _ hw₁
    rw [← hend] at hlater' hloses' hlawful'
    have hall := hloses.trans hloses'
    refine ⟨hlater.trans hlater', ⟨_, hall⟩, fun hl => ?_⟩
    obtain ⟨hmatched, htags⟩ := hlawful (hlater'.lawful hl)
    obtain ⟨hmatched', hmetric⟩ := hlawful' hl
    refine ⟨hmatched.trans hmatched', fun h outcome houtcome =>
      ⟨?_, fun tagTable htable c hc => ?_⟩⟩
    · obtain ⟨missing, hmissing, _⟩ := hok outcome houtcome
      exact hmetric (hmatched.tracks h) missing hmissing
    · have htable' : tagTable? o w.batch = some tagTable := by
        rw [← htable, tagTable?, tagTable?, hall.name_eq]
      have hc₁ := ((hloses'.required ho hw₁).2 c hc).1
      have hheld := htags h tagMissing htag tagTable htable' c hc₁
      exact hheld.mono (hmatched'.widens _).subset

end Batch

/-! ## What is allowed -/

section Frame

variable {F : Frame SharedStore}

theorem matchTable_keeps {request : TableBatch → Request}
    (hF : ∀ b, b.Valid o → F.Keeps ((request b).ensure o)) (w : Work SharedStore)
    (hw : w.batch.Valid o) :
    F.allows w.manager.store (matchTable o request w).2.manager.store := by
  rw [(run_matchTable request w).1]
  exact hF w.batch hw (w.manager.workspace _)

/-- Matching a batch does what its requests are allowed to do. -/
theorem matchBatch_keeps (hmetric : ∀ b, b.Valid o → F.Keeps ((metricRequest o b).ensure o))
    (htag : ∀ tagTable b, b.Valid o → F.Keeps ((tagRequest o b tagTable).ensure o))
    (w : Work SharedStore) (hw : w.batch.Valid o) :
    F.allows w.manager.store (matchBatch o w).2.manager.store := by
  have hfirst : F.allows w.manager.store (matchTagTable o w.batch w).2.manager.store ∧
      (matchTagTable o w.batch w).2.batch.Valid o := by
    unfold matchTagTable
    cases tagTable? o w.batch with
    | none => exact ⟨F.refl _, hw⟩
    | some tagTable =>
      obtain ⟨_, cs, hloses, _⟩ := run_matchTable (o := o) (fun b => tagRequest o b tagTable) w
      exact ⟨matchTable_keeps (htag tagTable) w hw, hloses.valid hw⟩
  rcases matchBatch_cases (o := o) w with ⟨_, hend⟩ | ⟨_, _, hend, _⟩
  · rw [hend]
    exact hfirst.1
  · rw [hend]
    exact F.trans hfirst.1 (matchTable_keeps hmetric _ hfirst.2)

end Frame

end Matching

end MetricTables
