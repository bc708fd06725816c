import MetricTables.Proofs.Reconcile.Frame
import MetricTables.Proofs.Store.Execution
import MetricTables.Proofs.Store.Journal

/-!
# What a request learns

A request that ends with success and knows its table then has learned all that it needs: every
column that it added, or that another writer added first, is known, and what was known before is
known still. So the missing columns that it gives are those that what it knows leaves missing,
whatever failed on the way and whatever others appended under names that the table did not have.

## Main definitions

* `SharedStore.Appended` — others only appended, to one table under new names.
* `Request.Learns` — what is known grows with the table, and has some columns in the end.
* `Request.Settles`, `Request.EndsSettled` — a request is settled by what is known after it.

## Main statements

* `ensure_naming` — a request, like others, puts columns under new names behind those of its table.
* `does_addColumns_learns` — what is known once columns were added.
* `does_ensure_settles` — bringing a table in step settles the request.
-/

namespace MetricTables

open Reconciliation SharedStore

/-! ## Names in a store that others use -/

namespace Catalog

variable {t t' : Catalog} {p q : TablePlace}

theorem namesAt_uncommented (t : Catalog) (p : TablePlace) :
    t.uncommented.namesAt p = t.namesAt p := by
  rw [namesAt, columnsAt, find?_uncommented, namesAt, columnsAt]
  cases t.find? p with
  | none => rfl
  | some columns => simp [plainColumns, StoredColumn.uncommented, Function.comp_def]

/-- A comment changes no names. -/
theorem namesAt_of_comment {column text : String} (h : t.comment q column text = .ok t') :
    t'.namesAt p = t.namesAt p := by
  rw [← namesAt_uncommented, uncommented_comment h, namesAt_uncommented]

/-- Columns are only appended where those of before stand in front. -/
theorem widens_insert {columns : List StoredColumn} (h : t.columnsAt p <+: columns) :
    t.Widens (t.insert p columns) := by
  intro q
  by_cases hq : q = p
  · subst hq
    rwa [columnsAt_insert_self]
  · rw [columnsAt_insert_of_ne t hq]

end Catalog

namespace SharedStore

variable {s s' : SharedStore} {p : TablePlace}

/-- Others only created tables and appended columns, at one place under names that the table there
did not have. -/
def Appended (p : TablePlace) (s : SharedStore) : Prop :=
  ∀ a ∈ s.acts, a.Widens ∧ AddsNames (a.before.tables.namesAt p) (a.after.tables.namesAt p)

theorem Later.appended (h : s.Later s') (hs : s'.Appended p) : s.Appended p :=
  fun a ha => hs a (h.subset ha)

theorem Appended.lawful (h : s.Appended p) : s.Lawful False :=
  fun a ha => ⟨(h a ha).1, False.elim⟩

end SharedStore

/-- If others only append, the names at a place stay in front, and new ones come behind them. -/
def naming (p : TablePlace) : Frame SharedStore where
  allows s s' := s.Later s' ∧ (s'.Appended p → AddsNames (s.tables.namesAt p) (s'.tables.namesAt p))
  refl s := ⟨.refl s, fun _ => .refl _⟩
  trans h h' := ⟨h.1.trans h'.1, fun ha => (h.2 (h'.1.appended ha)).trans (h'.2 ha)⟩

namespace SharedStore

variable (s : SharedStore) (p : TablePlace)

theorem naming_note (m : MemoryStore) : (naming p).allows s (s.note m) :=
  ⟨later_note s m, fun ha => (ha ⟨s.memory, m⟩ (by simp [note])).2⟩

theorem naming_takeTurn : (naming p).allows s s.takeTurn := by
  unfold takeTurn
  split
  · exact (naming p).refl s
  · exact naming_note s p _

/-- A call that changes tables puts new names behind others. -/
theorem naming_call {change : Catalog → Except StoreError Catalog}
    (hchange : ∀ t t' : Catalog, change t = .ok t' → AddsNames (t.namesAt p) (t'.namesAt p))
    {f : MemoryStore → Except StoreError Unit × MemoryStore}
    (hf : MemoryStore.Changed change s.memory (f s.memory)) :
    (naming p).allows s (s.call f).2 := by
  refine ⟨.refl s, fun _ => ?_⟩
  show AddsNames (s.memory.tables.namesAt p) ((f s.memory).2.tables.namesAt p)
  cases hanswer : (f s.memory).1 with
  | error e =>
    rw [hf.rejected e hanswer]
    exact .refl _
  | ok _ => exact hchange _ _ (hf.accepted hanswer).1

theorem naming_columns (q : TablePlace) : (naming p).allows s (Store.columns q.1 q.2 s).2 := by
  refine (naming p).trans (naming_takeTurn s p) ⟨.refl _, fun _ => ?_⟩
  show AddsNames _ ((s.takeTurn.memory.columns q).2.tables.namesAt p)
  rw [(s.takeTurn.memory.columns_keeps q).1]
  exact .refl _

theorem naming_comment (q : TablePlace) (column text : String) :
    (naming p).allows s (Store.comment q.1 q.2 column text s).2 := by
  refine (naming p).trans (naming_takeTurn s p)
    (naming_call s.takeTurn p (fun t t' h => ?_) (MemoryStore.comment_changed _ q column text))
  rw [Catalog.namesAt_of_comment h]
  exact .refl _

theorem naming_execute (sql : String) : (naming p).allows s (Store.execute sql s).2 := by
  refine (naming p).trans (naming_takeTurn s p) ?_
  show (naming p).allows s.takeTurn (execute sql s).2
  cases hoffline : s.takeTurn.memory.isOffline with
  | true =>
    rw [execute, if_pos hoffline]
    exact (naming p).refl _
  | false =>
    rw [execute, if_neg (by simp [hoffline])]
    have honline : s.takeTurn.memory.landWrite.isOffline = false := by
      rw [← hoffline]
      exact s.takeTurn.memory.landWrite_isOffline
    exact (naming p).trans (naming_note _ p _)
      (naming_call _ p (fun t t' h => (Catalog.run_grows h).names p)
        (MemoryStore.executeUndisturbed_changed _ sql honline))

end SharedStore

/-- A request, like others, puts columns under new names behind those of every table. -/
theorem ensure_naming {o : Options} {r : Request} (p : TablePlace)
    (hnames : (r.required.map Column.name).Nodup) : (naming p).Keeps (r.ensure o) := by
  have hrun : ∀ (c : Template.Context) (template : Template),
      (naming p).Keeps (Request.runTemplate o c template) :=
    fun _ _ => Request.keeps_runTemplate fun sql _ s => naming_execute s p sql
  exact Request.keeps_ensure (r := r) (Request.StaysIn.isAllowed
    ⟨hnames, fun s => naming_columns s p (r.place o),
      fun name s => naming_comment s p (r.place o) name tagComment,
      fun _ _ _ template _ => hrun _ template, fun _ _ _ template _ => hrun _ template⟩)

/-! ## What is known of a table that grows -/

namespace Definition

variable {o : Options} {cols cols' old more : List StoredColumn} {d d' : Definition} {c : Column}

/-- A column is known that can take the values. -/
def Knows (d : Definition) (c : Column) : Prop :=
  ∃ existing, d.find? c.name = some existing ∧ existing.holds c = true

theorem Knows.mono (hc : d.Knows c) (h : d.Within d') : d'.Knows c := by
  obtain ⟨existing, hfind, hholds⟩ := hc
  exact ⟨existing, h _ _ hfind, hholds⟩

theorem mem_of_find?_ofColumns {name : String} (h : (ofColumns o cols).find? name = some c) :
    name ∈ cols.map StoredColumn.name := by
  by_contra hnot
  cases h.symm.trans (find?_ofColumns_eq_none.2 hnot)

/-- Columns under new names hide no column from being read. -/
theorem within_ofColumns (hle : cols <+: cols')
    (hnames : AddsNames (cols.map StoredColumn.name) (cols'.map StoredColumn.name)) :
    (ofColumns o cols).Within (ofColumns o cols') := by
  obtain ⟨more, rfl⟩ := hle
  rw [List.map_append, AddsNames.append_iff] at hnames
  intro name c hfind
  rw [ofColumns_append, find?_insertAll_of_not_mem, hfind]
  intro hmem
  rw [List.map_map] at hmem
  exact hnames.2 hmem (mem_of_find?_ofColumns hfind)

/-- Columns that were stored and marked under new names are known besides what was known. -/
theorem within_insertAll {cs : List Column} (hd : d.Within (ofColumns o cols)) (hle : cols <+: old)
    (hcs : ∀ c ∈ cs, c.IsRecovered o)
    (hnames : AddsNames (cols.map StoredColumn.name)
      ((old ++ cs.map Column.marked ++ more).map StoredColumn.name)) :
    d.Within (d.insertAll cs) ∧
      (d.insertAll cs).Within (ofColumns o (old ++ cs.map Column.marked ++ more)) ∧
      ∀ c ∈ cs, (d.insertAll cs).Knows c := by
  have hold : old <+: old ++ cs.map Column.marked := List.prefix_append _ _
  have hall : old ++ cs.map Column.marked <+: old ++ cs.map Column.marked ++ more :=
    List.prefix_append _ _
  -- the new names are those of columns before, of these columns, and of columns behind them
  obtain ⟨hbefore, hrest⟩ := hnames.split (hle.map _) ((hold.trans hall).map _)
  obtain ⟨hown, hbehind⟩ := hrest.split (hold.map _) (hall.map _)
  obtain ⟨hown, hnew⟩ : (cs.map Column.name).Nodup ∧
      (cs.map Column.name).Disjoint (old.map StoredColumn.name) := by
    simpa [AddsNames.append_iff, Function.comp_def] using hown
  have hread : d.Within (ofColumns o old) := hd.trans (within_ofColumns hle hbefore)
  refine ⟨fun name c hfind => ?_, fun name c hfind => ?_, fun c hc => ?_⟩
  · rw [find?_insertAll_of_not_mem, hfind]
    exact fun hmem => hnew hmem (mem_of_find?_ofColumns (hread name c hfind))
  · rcases mem_of_find?_insertAll hfind with ⟨hc, rfl⟩ | hfind
    · refine within_ofColumns hall hbehind _ _ ?_
      rw [ofColumns_marked hcs]
      exact find?_insertAll_of_mem hown hc
    · exact within_ofColumns (hold.trans hall) hrest _ _ (hread name c hfind)
  · exact ⟨c, find?_insertAll_of_mem hown hc, c.holds_self⟩

end Definition

namespace Request

variable {quiet : Prop} {o : Options} {r : Request} {createRest addRest : List Template}
  {cs cs' : List Column} {w w₁ w' : Workspace SharedStore}

/-! ## What is learned of a table -/

/-- The table keeps its columns in front. If it gains columns of new names only, and if what was
known was right about it, then that is known still, what is known is right, and there is a column
for each of those in question. -/
structure Learns (o : Options) (r : Request) (cs : List Column) (w w' : Workspace SharedStore) :
    Prop where
  grows : w.store.columnsAt (r.place o) <+: w'.store.columnsAt (r.place o)
  knows : AddsNames (w.store.tables.namesAt (r.place o)) (w'.store.tables.namesAt (r.place o)) →
    w.definition.Within (.ofColumns o (w.store.columnsAt (r.place o))) →
      w.definition.Within w'.definition ∧
        w'.definition.Within (.ofColumns o (w'.store.columnsAt (r.place o))) ∧
        ∀ c ∈ cs, w'.definition.Knows c

namespace Learns

theorem nil (o : Options) (r : Request) (w : Workspace SharedStore) : Learns o r [] w w :=
  ⟨List.prefix_rfl, fun _ hd => ⟨.refl _, hd, fun _ hc => nomatch hc⟩⟩

theorem append (h : Learns o r cs w w₁) (h' : Learns o r cs' w₁ w') :
    Learns o r (cs ++ cs') w w' where
  grows := h.grows.trans h'.grows
  knows hnames hd := by
    obtain ⟨hnames₁, hnames'⟩ := hnames.split (h.grows.map _) (h'.grows.map _)
    obtain ⟨hkept, hd₁, hknows⟩ := h.knows hnames₁ hd
    obtain ⟨hkept', hd', hknows'⟩ := h'.knows hnames' hd₁
    refine ⟨hkept.trans hkept', hd', fun c hc => ?_⟩
    rcases List.mem_append.1 hc with hc | hc
    · exact (hknows c hc).mono hkept'
    · exact hknows' c hc

/-- Columns that stand marked in the table are inserted. -/
theorem of_inserted (hcs : ∀ c ∈ cs, c.IsRecovered o) {old more : List StoredColumn}
    (hle : w.store.columnsAt (r.place o) <+: old)
    (hcolumns : w'.store.columnsAt (r.place o) = old ++ cs.map Column.marked ++ more)
    (hdefinition : w'.definition = w.definition.insertAll cs) : Learns o r cs w w' where
  grows := by
    rw [hcolumns, List.append_assoc]
    exact hle.trans (List.prefix_append _ _)
  knows hnames hd := by
    have hall : w'.store.tables.namesAt (r.place o) =
        (old ++ cs.map Column.marked ++ more).map StoredColumn.name := by
      rw [← hcolumns]
      rfl
    rw [hall] at hnames
    rw [hcolumns, hdefinition]
    exact Definition.within_insertAll hd hle hcs hnames

/-- The store was asked, and its answer has columns for those in question. -/
theorem of_asked (hle : w.store.columnsAt (r.place o) <+: w'.store.columnsAt (r.place o))
    (hdefinition : w'.definition = .ofColumns o (w'.store.columnsAt (r.place o)))
    (hknows : ∀ c ∈ cs, w'.definition.Knows c) : Learns o r cs w w' where
  grows := hle
  knows hnames hd := by
    refine ⟨?_, hdefinition ▸ .refl _, hknows⟩
    rw [hdefinition]
    exact hd.trans (Definition.within_ofColumns hle hnames)

end Learns

/-! ## Adding columns -/

theorem does_tryAddColumn_learns (hr : r.IsSound o createRest addRest) {c : Column}
    (hc : c ∈ r.required) : Shared quiet (r.tryAddColumn o c) fun w answer w' =>
      answer = .ok true → Learns o r [c] w w' := by
  refine does_attempt_bind (does_addColumn hr (fun h : False => h.elim) hc)
    (fun _ => Does.pure true) (does_recheck c) ?_ ?_
  · rintro w _ w₁ answer w' ⟨_, hok, _⟩ ⟨rfl, rfl⟩ _
    obtain ⟨old, more, hle, hcolumns, _, hdefinition⟩ := hok rfl
    exact .of_inserted (by simpa using hr.recovered c hc) hle hcolumns hdefinition
  · rintro w e w₁ answer w' ⟨htable, _⟩ hrechecks htrue
    cases hrechecks with
    | kept _ _ hanswer => exact absurd htrue hanswer
    | asked hdrift hofColumns hanswer =>
      refine .of_asked (htable.le.trans (hdrift.columnsAt_prefix _)) hofColumns fun d hd => ?_
      obtain rfl := List.mem_singleton.1 hd
      exact (Option.any_eq_true _ _).1 (Except.ok.inj (hanswer.symm.trans htrue))

/-- If all columns were added, by whomever, all are known. -/
theorem does_addColumns_learns (hr : r.IsSound o createRest addRest) (hcs : cs ⊆ r.required) :
    Shared quiet (r.addColumns o cs) fun w answer w' => answer = .ok [] → Learns o r cs w w' := by
  induction cs with
  | nil =>
    refine (Does.pure _).mono ?_
    rintro w answer w' ⟨rfl, rfl⟩ _
    exact .nil o r w'
  | cons c cs ih =>
    have hrest : ∀ added : Bool, Shared quiet
        (do let rest ← r.addColumns o cs; return if added then rest else c :: rest)
        fun w answer w' => answer = .ok [] → added = true ∧ Learns o r cs w w' := by
      intro added
      refine (ih fun d hd => hcs (List.mem_cons_of_mem _ hd)).bind (fun rest => Does.pure _) ?_ ?_
      · exact fun _ _ _ _ h => nomatch h
      · rintro w rest w₁ answer w' h ⟨rfl, rfl⟩ hnil
        cases added with
        | true => exact ⟨rfl, h (by simpa using hnil)⟩
        | false => cases hnil
    refine (does_tryAddColumn_learns hr (hcs List.mem_cons_self)).bind hrest ?_ ?_
    · exact fun _ _ _ _ h => nomatch h
    · rintro w added w₁ answer w' hfirst hlast hnil
      -- nothing was given back, so this column was added too
      obtain ⟨rfl, hlearns⟩ := hlast hnil
      exact (hfirst rfl).append hlearns

/-- If the table is known once it was extended, it has all columns that were to be added. -/
theorem does_extend_learns (hr : r.IsSound o createRest addRest) {g : Gap}
    (hg : g.addable ⊆ r.required) : Shared quiet (r.extend o g) fun w answer w' =>
      ∀ missing, answer = .ok missing → w'.definition.isKnown = true →
        missing = Column.sort g.missing ∧ Learns o r g.addable w w' := by
  obtain ⟨first, hfirst, _⟩ := hr.add
  unfold extend
  rw [hfirst]
  split
  next hempty =>
    refine (Does.pure _).mono ?_
    rintro w answer w' ⟨rfl, rfl⟩ missing hok _
    rw [List.isEmpty_iff.1 hempty]
    exact ⟨(Except.ok.inj hok).symm, .nil o r w'⟩
  next =>
    refine (does_addColumns_learns hr hg).bind (does_finish g) ?_ ?_
    · exact fun _ _ _ _ _ h => nomatch h
    · rintro w failed w₁ answer w' hlearns ⟨rfl, hstore, ⟨hdefinition, rfl⟩ | hunknown⟩ missing hok
        hknown
      · obtain ⟨hgrows, hknows⟩ := hlearns rfl
        refine ⟨?_, ⟨hstore ▸ hgrows, ?_⟩⟩
        · rw [← Except.ok.inj hok, List.append_nil]
        · rw [hstore, hdefinition]
          exact hknows
      · rw [hunknown] at hknown
        cases hknown

/-! ## Settling a request -/

/-- What is known settles a request if it is more than what the missing columns were told from,
and has a column for each of those that were to be added. -/
theorem settled?_of_knows {required : List Column} {d d' : Definition}
    (hadd : r.addColumnTemplates ≠ []) (hnames : (required.map Column.name).Nodup)
    (h : d.Within d') (hknown : d'.isKnown = true)
    (hfits : ∀ name c, d'.find? name = some c → Identifier.fits o.identifierMaxBytes name = true)
    (hknows : ∀ c ∈ (d.gap o.identifierMaxBytes required).addable, d'.Knows c) :
    r.settled? o required d' =
      some (Column.sort (d.gap o.identifierMaxBytes required).missing) := by
  have haddable : (d'.gap o.identifierMaxBytes required).addable = [] := by
    rw [← Definition.absent_gap_addable h]
    refine List.filter_eq_nil_iff.2 fun c hc => ?_
    obtain ⟨existing, hfind, _⟩ := hknows c hc
    simp [hfind]
  have hconflicts : d'.conflicts (d.gap o.identifierMaxBytes required).addable = [] := by
    refine List.filter_eq_nil_iff.2 fun c hc => ?_
    obtain ⟨existing, hfind, hholds⟩ := hknows c hc
    simp [hfind, hholds]
  have hmissing := Definition.sort_left h hfits hnames (List.nil_sublist _)
  rw [hconflicts, List.append_nil, List.append_nil, List.append_nil] at hmissing
  rw [settled?_eq hadd, if_pos ⟨hknown, haddable⟩, hmissing]

/-- The table keeps its columns in front. If it gains columns of new names only, none of which is
too long, then what is known in the end settles the request. -/
structure Settles (o : Options) (r : Request) (w : Workspace SharedStore) (missing : List Column)
    (w' : Workspace SharedStore) : Prop where
  grows : w.store.columnsAt (r.place o) <+: w'.store.columnsAt (r.place o)
  settled : AddsNames (w.store.tables.namesAt (r.place o)) (w'.store.tables.namesAt (r.place o)) →
    (∀ name ∈ w'.store.tables.namesAt (r.place o),
      Identifier.fits o.identifierMaxBytes name = true) →
    r.settled? o (Column.sort r.required) w'.definition = some missing

/-- If a request succeeds, and knows its table then, it is settled. -/
def EndsSettled (o : Options) (r : Request) (w : Workspace SharedStore)
    (answer : Except SchemaError (List Column)) (w' : Workspace SharedStore) : Prop :=
  ∀ missing, answer = .ok missing → w'.definition.isKnown = true → Settles o r w missing w'

variable {answer : Except SchemaError (List Column)}

/-- It does not matter if columns were appended before. -/
theorem EndsSettled.behind (h : EndsSettled o r w₁ answer w')
    (hle : w.store.columnsAt (r.place o) <+: w₁.store.columnsAt (r.place o)) :
    EndsSettled o r w answer w' := by
  intro missing hok hknown
  have hsettles := h missing hok hknown
  exact ⟨hle.trans hsettles.grows, fun hnames =>
    hsettles.settled (hnames.split (hle.map _) (hsettles.grows.map _)).2⟩

theorem endsSettled_error (e : SchemaError) : EndsSettled o r w (.error e) w' :=
  fun _ hok => nomatch hok

theorem endsSettled_of_unknown (hunknown : w'.definition = .unknown) :
    EndsSettled o r w answer w' := by
  intro missing _ hknown
  rw [hunknown] at hknown
  cases hknown

/-- Who learns all columns that were to be added is settled. -/
theorem Learns.settles {g : Gap} (hadd : r.addColumnTemplates ≠ [])
    (hnames : (r.required.map Column.name).Nodup) (h : Learns o r g.addable w w')
    (hd : w.definition.Within (.ofColumns o (w.store.columnsAt (r.place o))))
    (haddable : g.addable =
      (w.definition.gap o.identifierMaxBytes (Column.sort r.required)).addable)
    (hmissing : (∀ name c, w.definition.find? name = some c →
        Identifier.fits o.identifierMaxBytes name = true) → Column.sort g.missing =
      Column.sort (w.definition.gap o.identifierMaxBytes (Column.sort r.required)).missing)
    (hknown : w'.definition.isKnown = true) : Settles o r w (Column.sort g.missing) w' where
  grows := h.grows
  settled hadds hfits := by
    obtain ⟨hkept, hd', hknows⟩ := h.knows hadds hd
    have hfits' : ∀ name c, w'.definition.find? name = some c →
        Identifier.fits o.identifierMaxBytes name = true := fun name c hfind =>
      hfits name (Definition.mem_of_find?_ofColumns (hd' name c hfind))
    rw [hmissing fun name c hfind => hfits' name c (hkept name c hfind)]
    rw [haddable] at hknows
    exact settled?_of_knows hadd (Column.nodup_sort hnames) hkept hknown hfits' hknows

section Ensure

variable (hr : r.IsSound o createRest addRest)
include hr

/-- An extension ends settled if it makes up for what the table was found to lack. -/
theorem does_extend_settles {g : Gap} {d : Definition}
    (haddable : g.addable = (d.gap o.identifierMaxBytes (Column.sort r.required)).addable)
    (hmissing : (∀ name c, d.find? name = some c →
        Identifier.fits o.identifierMaxBytes name = true) → Column.sort g.missing =
      Column.sort (d.gap o.identifierMaxBytes (Column.sort r.required)).missing) :
    Shared quiet (r.extend o g) fun w answer w' => w.definition = d →
      d = .ofColumns o (w.store.columnsAt (r.place o)) → EndsSettled o r w answer w' := by
  obtain ⟨first, hfirst, _⟩ := hr.add
  have hg : g.addable ⊆ r.required := by
    rw [haddable]
    exact (wants_gap hr.names (Column.sort_perm _)).subset
  refine (does_extend_learns hr hg).mono ?_
  rintro w answer w' hlearns rfl hofColumns missing hok hknown
  obtain ⟨rfl, hlearns⟩ := hlearns missing hok hknown
  refine hlearns.settles (by simp [hfirst]) hr.names ?_ haddable hmissing hknown
  rw [← hofColumns]
  exact .refl _

/-- The rest is added to the table of a writer who came first. -/
theorem does_catchUp_settles (d : Definition) :
    Shared quiet (r.catchUp o (Column.sort r.required)
        (Definition.unknown.gap o.identifierMaxBytes (Column.sort r.required)) d)
      fun w answer w' => w.definition = d → d = .ofColumns o (w.store.columnsAt (r.place o)) →
        EndsSettled o r w answer w' := by
  -- what was to be added without knowing is told apart by what is known now
  have hwithin := Definition.Within.of_unknown d
  unfold catchUp
  split
  · refine does_extend_settles hr (Definition.absent_gap_addable hwithin) fun hfits => ?_
    simpa using Definition.sort_left hwithin hfits (Column.nodup_sort hr.names) (List.nil_sublist _)
  next hunknown =>
    refine (Does.pure _).mono ?_
    rintro w answer w' ⟨rfl, rfl⟩ rfl _
    exact endsSettled_of_unknown (Definition.eq_unknown (by simpa using hunknown))

/-- So does a request that finds the table created by somebody else. -/
theorem does_recover_settles (e : SchemaError) :
    Shared quiet (r.recover o (Column.sort r.required)
        (Definition.unknown.gap o.identifierMaxBytes (Column.sort r.required)) e)
      fun w answer w' => w.definition = .unknown → EndsSettled o r w answer w' := by
  unfold recover
  split
  · refine (@does_refresh_bind quiet o r _ _ _ (does_catchUp_settles hr)).mono ?_
    rintro w answer w' (⟨⟨e, rfl⟩, _⟩ | ⟨w₁, hdrift, hofColumns, h⟩) _
    · exact endsSettled_error e
    · exact (h rfl hofColumns).behind (hdrift.columnsAt_prefix _)
  · split
    · refine (Does.throw e).mono ?_
      rintro w answer w' ⟨rfl, rfl⟩ _
      exact endsSettled_error e
    · refine (Does.pure _).mono ?_
      rintro w answer w' ⟨rfl, rfl⟩ hunknown
      exact endsSettled_of_unknown hunknown

/-- So does a request that creates its table, whoever comes first. -/
theorem does_create_settles
    (hne : (Definition.unknown.gap o.identifierMaxBytes (Column.sort r.required)).addable ≠ []) :
    Shared quiet (r.create o (Column.sort r.required)
        (Definition.unknown.gap o.identifierMaxBytes (Column.sort r.required)))
      fun w answer w' => w.definition = .unknown → EndsSettled o r w answer w' := by
  obtain ⟨first, hfirst, _⟩ := hr.add
  have hwants := wants_gap (o := o) (d := .unknown) hr.names (Column.sort_perm _)
  refine does_attempt_bind (does_createTable hr (fun h : False => h.elim) hwants hne)
    (fun _ => Does.pure _) (does_recover_settles hr) ?_ ?_
  · rintro w _ w₁ answer w' ⟨_, hok, _⟩ ⟨rfl, rfl⟩ hunknown missing hmissing hknown
    cases hmissing
    obtain ⟨old, more, hle, hcolumns, _, hdefinition⟩ := hok rfl
    have hrecovered := fun c hc => hr.recovered c (hwants.subset hc)
    have hlearns : Learns o r _ w w' := .of_inserted hrecovered hle hcolumns hdefinition
    refine hlearns.settles (by simp [hfirst]) hr.names ?_ (by rw [hunknown])
      (fun _ => by rw [hunknown]) hknown
    rw [hunknown]
    exact .of_unknown _
  · rintro w e w₁ answer w' ⟨htable, _, herror⟩ hrecovers _
    exact (hrecovers (herror e rfl)).behind htable.le

theorem does_change_settles : Shared quiet (r.change o (Column.sort r.required))
    fun w answer w' => w.definition = .ofColumns o (w.store.columnsAt (r.place o)) →
      EndsSettled o r w answer w' := by
  obtain ⟨first, hfirst, _⟩ := hr.create
  refine does_known_bind fun d => ?_
  dsimp only
  split
  · refine (does_extend_settles hr rfl fun _ => rfl).mono ?_
    exact fun w answer w' h hd hofColumns => h hd (hd ▸ hofColumns)
  next hunknown =>
    obtain rfl := Definition.eq_unknown (by simpa using hunknown)
    rw [hfirst, List.isEmpty_cons, if_neg (by simp)]
    split
    · refine (Does.throw _).mono ?_
      rintro w answer w' ⟨rfl, rfl⟩ _ _
      exact endsSettled_error _
    · split
      · refine (Does.pure _).mono ?_
        rintro w answer w' ⟨rfl, rfl⟩ hd _
        exact endsSettled_of_unknown hd
      next hempty =>
        refine (does_create_settles hr (by simpa using hempty)).mono ?_
        exact fun w answer w' h hd _ => h hd

/-- A request that ends with success and knows its table then is settled by what it knows, as long
as others only append, under names that the table does not have and that are not too long. -/
theorem does_ensure_settles : Shared quiet (r.ensure o) fun w answer w' =>
    ∀ missing, answer = .ok missing → w'.definition.isKnown = true →
      AddsNames (w.store.tables.namesAt (r.place o)) (w'.store.tables.namesAt (r.place o)) →
      (∀ name ∈ w'.store.tables.namesAt (r.place o),
        Identifier.fits o.identifierMaxBytes name = true) →
      r.settled? o (Column.sort r.required) w'.definition = some missing := by
  unfold ensure
  refine does_known_bind fun d => ?_
  cases hsettled : r.settled? o (Column.sort r.required) d with
  | some missing =>
    refine (Does.pure missing).mono ?_
    rintro w answer w' ⟨rfl, rfl⟩ rfl missing' hok _ _ _
    cases hok
    exact hsettled
  | none =>
    refine (does_refresh o r).bind (fun _ => does_change_settles hr) ?_ ?_
    · exact fun _ _ _ _ _ _ h => nomatch h
    · rintro w _ w₁ answer w' ⟨hdrift, hok, _⟩ h _ missing hmissing hknown
      have hends := (h (hok rfl)).behind (hdrift.columnsAt_prefix _)
      exact (hends missing hmissing hknown).settled

end Ensure

end Request

end MetricTables
