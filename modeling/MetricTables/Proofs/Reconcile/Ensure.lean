import MetricTables.Proofs.Reconcile.Extend

/-!
# Bringing a table in step

What `Request.ensure` does to the table, to what is known of it and to the missing columns,
whatever others do as long as they only widen tables: the table may be there or not, another
writer may come first, and every statement may fail.

## Main definitions

* `Ensures` — what bringing a table in step may do.

## Main statements

* `does_create` — what creating the table does, or losing the race for it.
* `does_ensure` — what bringing a table in step does.
-/

namespace MetricTables

open Reconciliation SharedStore

namespace Request

variable {quiet exact : Prop} {o : Options} {r : Request} {createRest addRest : List Template}

/-! ## The table does not exist -/

/-- What follows a creation that failed. -/
def forget {σ : Type} (e : SchemaError) : Reconciliation σ PUnit := do
  setDefinition fun _ => .unknown
  throw e

theorem does_forget (e : SchemaError) : Shared quiet (forget e) fun w answer w' =>
    answer = .error e ∧ w' = { w with definition := .unknown } := by
  refine (does_setDefinition _).bind (fun _ => Does.throw e) ?_ ?_
  · rintro w e w' ⟨he, _⟩
    cases he
  · rintro w _ w₁ answer w' ⟨_, rfl⟩ ⟨rfl, rfl⟩
    exact ⟨rfl, rfl⟩

/-- Columns are inserted into the definition once they stand marked in the table, and
otherwise everything is forgotten. -/
theorem does_createTable (hr : r.IsSound o createRest addRest)
    (hexact : exact → createRest = []) {cs : List Column} (hcs : r.Wants cs) (hne : cs ≠ []) :
    Shared quiet (r.createTable o cs) fun w answer w' =>
      Extends quiet exact cs (r.place o) w.store w'.store ∧
      (answer = .ok ⟨⟩ → ∃ old more, w.store.columnsAt (r.place o) <+: old ∧
        w'.store.columnsAt (r.place o) = old ++ cs.map Column.marked ++ more ∧
        (quiet → old = w.store.columnsAt (r.place o) ∧ more = []) ∧
        w'.definition = w.definition.insertAll cs) ∧
      (∀ e, answer = .error e → w'.definition = .unknown) := by
  obtain ⟨first, hfirst, hcreate⟩ := hr.create
  obtain ⟨hadds, hharmless⟩ := hcreate cs cs hcs hne
  unfold createTable
  rw [hfirst]
  refine does_attempt_bind (does_carryOut o r hcs.names hadds hharmless)
    (fun _ => does_setDefinition _) does_forget ?_ ?_
  · rintro w _ w₁ answer w' ⟨hdefinition, hreach, hcarries⟩ ⟨rfl, rfl⟩
    refine ⟨.of_carriesOut hcs.names hexact hreach hcarries, fun _ => ?_, fun _ h => nomatch h⟩
    obtain ⟨old, more, hle, _, hcolumns, hquiet⟩ := hcarries.done rfl
    exact ⟨old, more, hle, hcolumns, hquiet, congrArg (·.insertAll cs) hdefinition⟩
  · rintro w e w₁ answer w' ⟨_, hreach, hcarries⟩ ⟨rfl, rfl⟩
    exact ⟨.of_carriesOut hcs.names hexact hreach hcarries, fun h => (nomatch h), fun _ _ => rfl⟩

/-- Adds the rest to the table of a writer who came first, if that table has columns. -/
def catchUp {σ : Type} [Store σ] (o : Options) (r : Request) (required : List Column) (g : Gap)
    (d : Definition) : Reconciliation σ (List Column) := do
  if d.isKnown then
    r.extend o { addable := d.absent g.addable, missing := g.missing ++ d.conflicts g.addable }
  else return required

/-- What follows a table that was not created. -/
def recover {σ : Type} [Store σ] (o : Options) (r : Request) (required : List Column) (g : Gap)
    (e : SchemaError) : Reconciliation σ (List Column) := do
  if e.isDuplicateObject then
    r.refresh o
    r.catchUp o required g (← known)
  else if e.isTemporary then throw e
  else return required

/-- If others are quiet and the store is reached, a failure leaves a column to be added. -/
def LeavesAddable (quiet : Prop) (o : Options) (g : Gap) (w : Workspace SharedStore)
    (answer : Except SchemaError (List Column)) (w' : Workspace SharedStore) : Prop :=
  quiet → w.store.IsReached o → ∀ e, answer = .error e →
    ∃ c ∈ g.addable, w'.definition.find? c.name = none

/-- Columns that somebody else added meanwhile are not added again. -/
theorem does_extend_absent (hr : r.IsSound o createRest addRest)
    (hexact : exact → quiet ∧ createRest = [] ∧ addRest = []) {g : Gap} (hg : r.Wants g.addable)
    (d : Definition) :
    Shared quiet
      (r.extend o { addable := d.absent g.addable, missing := g.missing ++ d.conflicts g.addable })
      fun w answer w' => w.definition = d → d = .ofColumns o (w.store.columnsAt (r.place o)) →
        Fills quiet exact o r g w answer w' ∧ LeavesAddable quiet o g w answer w' := by
  have habsent : d.absent g.addable ⊆ g.addable := fun c hc => (Definition.mem_absent.1 hc).1
  have hconflicts : d.conflicts g.addable ⊆ g.addable :=
    fun c hc => (Definition.mem_conflicts.1 hc).1
  refine (does_extend hr hexact (List.Subset.trans habsent hg.subset)).mono ?_
  rintro w answer w' ⟨htable, hdefinition, hunknown⟩ rfl hofColumns
  have hex : w.definition.Exact o exact (w.store.columnsAt (r.place o)) := by
    rw [hofColumns]
    exact Definition.exact_ofColumns
  have haddable : LeavesAddable quiet o g w answer w' := by
    intro hq hreached e he
    have hfresh : Fresh (w.definition.absent g.addable) (w.store.columnsAt (r.place o)) := by
      refine ⟨hg.names.sublist (List.filter_sublist.map _), fun c hc hname => ?_⟩
      obtain ⟨_, hfind⟩ := Definition.mem_absent.1 hc
      rw [hofColumns] at hfind
      exact Definition.find?_ofColumns_eq_none.1 hfind hname
    obtain ⟨c, hc, hfind⟩ := hunknown hq hreached hfresh hex e he
    exact ⟨c, habsent hc, hfind⟩
  refine ⟨⟨htable.mono habsent, fun _ => ?_, fun hq hreached _ _ => haddable hq hreached⟩, haddable⟩
  obtain ⟨htracks, hok⟩ := hdefinition hex
  refine ⟨htracks, fun missing h => ?_⟩
  obtain ⟨hmissing, hsubset, hheld⟩ := hok missing h
  refine ⟨fun c hc => hmissing (List.mem_append_left _ hc), fun c hc => ?_, fun c hc hnot => ?_⟩
  · have hcases := hsubset hc
    simp only [List.mem_append] at hcases ⊢
    rcases hcases with (hc | hc) | hc
    · exact .inl hc
    · exact .inr (hconflicts hc)
    · exact .inr (habsent hc)
  · cases hfind : w.definition.find? c.name with
    | none => exact hheld c (Definition.mem_absent.2 ⟨hc, hfind⟩) hnot
    | some existing =>
      cases hholds : existing.holds c with
      | true => exact (hex.backed.held hfind hholds).mono htable.le.subset
      | false =>
        have hconflict := Definition.mem_conflicts.2 ⟨hc, existing, hfind, hholds⟩
        exact absurd (hmissing (List.mem_append_right _ hconflict)) hnot

/-- What may come of a table that was not created: nothing, all that is required, or what the
table of another writer lacks. -/
inductive Recovers (quiet exact : Prop) (o : Options) (r : Request) (required : List Column)
    (g : Gap) (w : Workspace SharedStore) (answer : Except SchemaError (List Column))
    (w' : Workspace SharedStore) : Prop
  | failed (e : SchemaError) (answer : answer = .error e) (table : Drifts quiet w.store w'.store)
    (definition : w'.definition = .unknown)
  | gaveUp (answer : answer = .ok required) (table : Drifts quiet w.store w'.store)
    (definition : w'.definition.Tracks o exact (w'.store.columnsAt (r.place o)))
  | filled (w₁ : Workspace SharedStore) (table : Drifts quiet w.store w₁.store)
    (definition : w₁.definition.Exact o exact (w₁.store.columnsAt (r.place o)))
    (fills : Fills quiet exact o r g w₁ answer w') (addable : LeavesAddable quiet o g w₁ answer w')

/-- A creation that failed may have been overtaken: the table is read again and extended. -/
theorem does_recover (hr : r.IsSound o createRest addRest)
    (hexact : exact → quiet ∧ createRest = [] ∧ addRest = []) {required : List Column} {g : Gap}
    (hg : r.Wants g.addable) (e : SchemaError) :
    Shared quiet (r.recover o required g e) fun w answer w' =>
      w.definition = .unknown → Recovers quiet exact o r required g w answer w' := by
  have hfound : ∀ d : Definition, Shared quiet (r.catchUp o required g d) fun w answer w' =>
      w.definition = d → d = .ofColumns o (w.store.columnsAt (r.place o)) →
        (answer = .ok required ∧ w' = w) ∨
        (Fills quiet exact o r g w answer w' ∧ LeavesAddable quiet o g w answer w') := by
    intro d
    unfold catchUp
    split
    · exact (does_extend_absent hr hexact hg d).mono fun _ _ _ h hd hd' => .inr (h hd hd')
    · exact (Does.pure _).mono fun _ _ _ h _ _ => .inl h
  unfold recover
  split
  · refine (@does_refresh_bind quiet o r _ _ _ hfound).mono ?_
    rintro w answer w' (⟨⟨e, rfl⟩, hdrift, hdefinition, _⟩ | ⟨w₁, hdrift, hofColumns, h⟩) hunknown
    · exact .failed e rfl hdrift (hdefinition.trans hunknown)
    · have hex : w₁.definition.Exact o exact (w₁.store.columnsAt (r.place o)) := by
        rw [hofColumns]
        exact Definition.exact_ofColumns
      rcases h rfl hofColumns with ⟨rfl, rfl⟩ | ⟨hfills, haddable⟩
      · exact .gaveUp rfl hdrift hex.tracks
      · exact .filled w₁ hdrift hex hfills haddable
  · split
    · refine (Does.throw e).mono ?_
      rintro w answer w' ⟨rfl, rfl⟩ hunknown
      exact .failed e rfl (.refl _) hunknown
    · refine (Does.pure required).mono ?_
      rintro w answer w' ⟨rfl, rfl⟩ hunknown
      exact .gaveUp rfl (.refl _) (hunknown ▸ Definition.tracks_unknown)

/-- Whatever came of it, what was lacking is filled or reported. -/
theorem Recovers.fills {required : List Column} {g : Gap} {w w₁ w' : Workspace SharedStore}
    {answer : Except SchemaError (List Column)} (hne : g.addable ≠ [])
    (hrequired : ∀ c, c ∈ required ↔ c ∈ g.missing ++ g.addable)
    (htable : Extends quiet exact g.addable (r.place o) w.store w₁.store)
    (h : Recovers quiet exact o r required g w₁ answer w') :
    Fills quiet exact o r g w answer w' := by
  cases h with
  | failed e hanswer hdrift hunknown =>
    obtain ⟨c, hc⟩ := List.exists_mem_of_ne_nil _ hne
    subst hanswer
    refine ⟨htable.trans (.of_drifts hdrift), fun _ => ⟨?_, fun _ h => nomatch h⟩, ?_⟩
    · exact hunknown ▸ Definition.tracks_unknown
    · exact fun _ _ _ _ _ _ => ⟨c, hc, by rw [hunknown, Definition.find?_unknown]⟩
  | gaveUp hanswer hdrift htracks =>
    subst hanswer
    refine ⟨htable.trans (.of_drifts hdrift), fun _ => ⟨htracks, fun missing h => ?_⟩,
      fun _ _ _ _ _ h => nomatch h⟩
    cases h
    refine ⟨fun c hc => ?_, fun c hc => (hrequired c).1 hc, fun c hc hnot => absurd ?_ hnot⟩
    · exact (hrequired c).2 (List.mem_append_left _ hc)
    · exact (hrequired c).2 (List.mem_append_right _ hc)
  | filled w₂ hdrift hex hfills haddable =>
    have htable₂ := htable.trans (.of_drifts hdrift)
    refine ⟨htable₂.trans hfills.table, fun _ => hfills.definition hex, ?_⟩
    exact fun hq hreached _ _ =>
      haddable hq (isReached_of_reach_eq (htable₂.reach_eq hq) hreached)

/-- Creating the table, or adding the rest to the table of a writer who came first. -/
theorem does_create (hr : r.IsSound o createRest addRest)
    (hexact : exact → quiet ∧ createRest = [] ∧ addRest = []) {required : List Column} {g : Gap}
    (hg : r.Wants g.addable) (hne : g.addable ≠ [])
    (hrequired : ∀ c, c ∈ required ↔ c ∈ g.missing ++ g.addable) :
    Shared quiet (r.create o required g) fun w answer w' =>
      w.definition = .unknown → Fills quiet exact o r g w answer w' := by
  refine does_attempt_bind (does_createTable hr (fun he => (hexact he).2.1) hg hne)
    (fun _ => Does.pure _) (does_recover hr hexact hg) ?_ ?_
  · rintro w _ w₁ answer w' ⟨htable, hok, _⟩ ⟨rfl, rfl⟩ hunknown
    obtain ⟨old, more, hle, hcolumns, hquiet, hdefinition⟩ := hok rfl
    have hrecovered : ∀ c ∈ g.addable, c.IsRecovered o := fun c hc => hr.recovered c (hg.subset hc)
    refine ⟨htable, fun h => ⟨?_, fun missing hok => ?_⟩, fun _ _ _ _ _ h => nomatch h⟩
    · rw [hdefinition, hcolumns]
      exact (h.insertAll g.addable hle hrecovered fun he => hquiet (hexact he).1).tracks
    · cases hok
      refine ⟨fun c hc => Column.mem_sort.2 hc, fun c hc => ?_, fun c hc _ => ?_⟩
      · exact List.mem_append_left _ (Column.mem_sort.1 hc)
      · refine .of_marked (hrecovered c hc) ?_
        rw [hcolumns]
        simp only [List.mem_append, List.mem_map]
        exact .inl (.inr ⟨c, hc, rfl⟩)
  · rintro w e w₁ answer w' ⟨htable, _, herror⟩ hrecovers _
    exact (hrecovers (herror e rfl)).fills hne hrequired htable

/-! ## All together -/

/-- What bringing a table in step may do: a definition goes on tracking its table, and the
required columns that are not reported missing are held. If others are quiet and the store is
reached, a failure that may go away leaves a required column to be added, to a table that was
there or may be created. -/
structure Ensures (quiet exact : Prop) (o : Options) (r : Request) (w : Workspace SharedStore)
    (answer : Except SchemaError (List Column)) (w' : Workspace SharedStore) : Prop where
  table : Extends quiet exact
    (r.required.filter fun c => Identifier.fits o.identifierMaxBytes c.name)
    (r.place o) w.store w'.store
  definition : w.definition.Tracks o exact (w.store.columnsAt (r.place o)) →
    w'.definition.Tracks o exact (w'.store.columnsAt (r.place o)) ∧
      ∀ missing, answer = .ok missing → missing ⊆ r.required ∧
        ∀ c ∈ r.required, c ∉ missing → Held o (w'.store.columnsAt (r.place o)) c
  addable : quiet → w.store.IsReached o → ∀ e, answer = .error e → e.isTemporary = true →
    ∃ c ∈ r.required, Identifier.fits o.identifierMaxBytes c.name = true ∧
      w'.definition.find? c.name = none
  fits : quiet → w.store.IsReached o → ∀ e, answer = .error e → e.isTemporary = true →
    w.store.columnsAt (r.place o) = [] → Identifier.fits o.identifierMaxBytes r.table = true

/-- Nothing was done, for a reason that will not go away. -/
theorem Ensures.refused {w : Workspace SharedStore} {e : SchemaError} (he : e.isTemporary = false) :
    Ensures quiet exact o r w (.error e) w where
  table := .refl _
  definition h := ⟨h, fun _ h => nomatch h⟩
  addable _ _ e' h htemporary := by
    cases h
    cases he.symm.trans htemporary
  fits _ _ e' h htemporary := by
    cases h
    cases he.symm.trans htemporary

/-- Nothing was done, and all required columns are reported missing. -/
theorem Ensures.reported {w : Workspace SharedStore} {missing : List Column}
    (h : ∀ c, c ∈ missing ↔ c ∈ r.required) : Ensures quiet exact o r w (.ok missing) w where
  table := .refl _
  definition htracks := by
    refine ⟨htracks, fun missing' hmissing => ?_⟩
    cases hmissing
    exact ⟨fun c hc => (h c).1 hc, fun c hc hnot => absurd ((h c).2 hc) hnot⟩
  addable _ _ _ h := nomatch h
  fits _ _ _ h := nomatch h

theorem Ensures.of_drifts {w w₁ w' : Workspace SharedStore}
    {answer : Except SchemaError (List Column)} (h : Ensures quiet exact o r w₁ answer w')
    (hdrift : Drifts quiet w.store w₁.store)
    (hofColumns : w₁.definition = .ofColumns o (w₁.store.columnsAt (r.place o))) :
    Ensures quiet exact o r w answer w' where
  table := .trans (.of_drifts hdrift) h.table
  definition _ := h.definition (hofColumns ▸ Definition.exact_ofColumns.tracks)
  addable hq hreached := h.addable hq (isReached_of_reach_eq (hdrift.reach_eq hq) hreached)
  fits hq hreached e he htemporary hnil :=
    h.fits hq (isReached_of_reach_eq (hdrift.reach_eq hq) hreached) e he htemporary
      ((hdrift.columnsAt_eq hq _).trans hnil)

section Change

variable {required : List Column} {d : Definition} {cols : List StoredColumn}

theorem mem_gap_addable (hrequired : required.Perm r.required) {c : Column}
    (hc : c ∈ (d.gap o.identifierMaxBytes required).addable) :
    c ∈ r.required ∧ Identifier.fits o.identifierMaxBytes c.name = true ∧
      d.find? c.name = none := by
  obtain ⟨hc, hfind, hfits⟩ := Definition.mem_addable.1 hc
  exact ⟨hrequired.subset hc, hfits, hfind⟩

theorem gap_missing_subset (hrequired : required.Perm r.required) :
    (d.gap o.identifierMaxBytes required).missing ⊆ r.required := by
  intro c hc
  rcases Definition.mem_missing.1 hc with hc | ⟨hc, _⟩
  · exact hrequired.subset (Definition.mem_conflicts.1 hc).1
  · exact hrequired.subset hc

theorem wants_gap (hnames : (r.required.map Column.name).Nodup)
    (hrequired : required.Perm r.required) :
    r.Wants (d.gap o.identifierMaxBytes required).addable := by
  refine ⟨fun c hc => (mem_gap_addable hrequired hc).1, ?_⟩
  have hsublist : (d.gap o.identifierMaxBytes required).addable.Sublist required :=
    List.filter_sublist.trans List.filter_sublist
  exact ((hrequired.map _).nodup_iff.2 hnames).sublist (hsublist.map _)

theorem fresh_gap (hnames : (r.required.map Column.name).Nodup)
    (hrequired : required.Perm r.required) (hd : d = .ofColumns o cols) :
    Fresh (d.gap o.identifierMaxBytes required).addable cols := by
  refine ⟨(wants_gap hnames hrequired).names, fun c hc hname => ?_⟩
  obtain ⟨_, _, hfind⟩ := mem_gap_addable hrequired hc
  rw [hd] at hfind
  exact Definition.find?_ofColumns_eq_none.1 hfind hname

/-- All that was lacking was filled, and the rest is reported or held. -/
theorem Fills.ensures {w w' : Workspace SharedStore}
    {answer : Except SchemaError (List Column)} (hr : r.IsSound o createRest addRest)
    (hrequired : required.Perm r.required)
    (hofColumns : w.definition = .ofColumns o (w.store.columnsAt (r.place o)))
    (hfits : w.store.columnsAt (r.place o) = [] →
      Identifier.fits o.identifierMaxBytes r.table = true)
    (h : Fills quiet exact o r (w.definition.gap o.identifierMaxBytes required) w answer w') :
    Ensures quiet exact o r w answer w' := by
  have hex : w.definition.Exact o exact (w.store.columnsAt (r.place o)) := by
    rw [hofColumns]
    exact Definition.exact_ofColumns
  refine ⟨h.table.mono fun c hc => ?_, fun _ => ?_, fun hq hreached e he _ => ?_,
    fun _ _ _ _ _ => hfits⟩
  · obtain ⟨hmem, hfits, _⟩ := mem_gap_addable hrequired hc
    exact List.mem_filter.2 ⟨hmem, hfits⟩
  · obtain ⟨htracks, hok⟩ := h.definition hex
    refine ⟨htracks, fun missing hmissing => ?_⟩
    obtain ⟨hle, hsubset, hheld⟩ := hok missing hmissing
    refine ⟨fun c hc => ?_, fun c hc hnot => ?_⟩
    · rcases List.mem_append.1 (hsubset hc) with hc | hc
      · exact gap_missing_subset hrequired hc
      · exact (mem_gap_addable hrequired hc).1
    · rcases hex.backed.gap_cases (hrequired.symm.subset hc) with hc | hc | hc
      · exact hheld c hc hnot
      · exact absurd (hle hc) hnot
      · exact hc.mono h.table.le.subset
  · obtain ⟨c, hc, hfind⟩ :=
      h.unknown hq hreached (fresh_gap hr.names hrequired hofColumns) hex e he
    obtain ⟨hmem, hfits, _⟩ := mem_gap_addable hrequired hc
    exact ⟨c, hmem, hfits, hfind⟩

/-- Bringing the table in step if a definition is what is known. -/
def changeFrom {σ : Type} [Store σ] (o : Options) (r : Request) (required : List Column)
    (d : Definition) : Reconciliation σ (List Column) := do
  let g := d.gap o.identifierMaxBytes required
  if d.isKnown then r.extend o g
  else if r.createTemplates.isEmpty then return required
  else if !Identifier.fits o.identifierMaxBytes r.table then
    throw (.tableNameTooLong r.table o.identifierMaxBytes)
  else if g.addable.isEmpty then return Column.sort g.missing
  else r.create o required g

/-- Of a table that is not known everything is lacking. -/
theorem mem_gap_unknown {c : Column} : c ∈ required ↔
    c ∈ (Definition.unknown.gap o.identifierMaxBytes required).missing ++
      (Definition.unknown.gap o.identifierMaxBytes required).addable := by
  cases hfits : Identifier.fits o.identifierMaxBytes c.name <;>
    simp [Definition.mem_missing, Definition.mem_conflicts, Definition.mem_addable, hfits]

/-- The two ways of a request: a known table is extended, an unknown one is created. -/
theorem does_changeFrom (hr : r.IsSound o createRest addRest)
    (hexact : exact → quiet ∧ createRest = [] ∧ addRest = [])
    (hrequired : required.Perm r.required) (d : Definition) :
    Shared quiet (r.changeFrom o required d) fun w answer w' => w.definition = d →
      w.definition = .ofColumns o (w.store.columnsAt (r.place o)) →
        Ensures quiet exact o r w answer w' := by
  obtain ⟨first, hfirst, _⟩ := hr.create
  have hwants : r.Wants (d.gap o.identifierMaxBytes required).addable :=
    wants_gap hr.names hrequired
  unfold changeFrom
  dsimp only
  split
  next hknown =>
    refine (does_extend hr hexact hwants.subset).mono ?_
    rintro w answer w' h rfl hofColumns
    refine h.ensures hr hrequired hofColumns fun hnil => ?_
    rw [hofColumns, hnil] at hknown
    cases hknown
  next hknown =>
    obtain rfl := Definition.eq_unknown (by simpa using hknown)
    rw [hfirst, List.isEmpty_cons, if_neg (by simp)]
    split
    · refine (Does.throw _).mono ?_
      rintro w answer w' ⟨rfl, rfl⟩ _ _
      exact .refused rfl
    next hfits =>
      split
      next hempty =>
        refine (Does.pure _).mono ?_
        rintro w answer w' ⟨rfl, rfl⟩ hd hofColumns
        refine .reported fun c => ?_
        have hmem : c ∈ required ↔ _ := mem_gap_unknown (o := o)
        rw [List.isEmpty_iff.1 hempty, List.append_nil] at hmem
        rw [Column.mem_sort, ← hmem, hrequired.mem_iff]
      next hempty =>
        have hne : (Definition.unknown.gap o.identifierMaxBytes required).addable ≠ [] := by
          simpa using hempty
        refine (does_create hr hexact hwants hne fun c => mem_gap_unknown).mono ?_
        rintro w answer w' h hd hofColumns
        have hfills := h hd
        rw [← hd] at hfills
        exact hfills.ensures hr hrequired hofColumns fun _ => by simpa using hfits

/-- Bringing the table in step after the store was asked. -/
theorem does_change (hr : r.IsSound o createRest addRest)
    (hexact : exact → quiet ∧ createRest = [] ∧ addRest = [])
    (hrequired : required.Perm r.required) :
    Shared quiet (r.change o required) fun w answer w' =>
      w.definition = .ofColumns o (w.store.columnsAt (r.place o)) →
        Ensures quiet exact o r w answer w' := by
  refine does_known_bind fun d => (does_changeFrom hr hexact hrequired d).mono ?_
  intro w answer w' h hd hofColumns
  exact h hd hofColumns

/-- What is known settles a request if it leaves no column to be added. -/
theorem settled?_eq (h : r.addColumnTemplates ≠ []) :
    r.settled? o required d =
      if d.isKnown = true ∧ (d.gap o.identifierMaxBytes required).addable = [] then
        some (Column.sort (d.gap o.identifierMaxBytes required).missing)
      else none := by
  have hnot : r.addColumnTemplates.isEmpty = false := by simpa using h
  simp only [settled?, hnot, Bool.or_false, Bool.and_eq_true, List.isEmpty_iff]
  split
  next hempty => rw [hempty.2, List.append_nil]
  next => rfl

/-- Nothing is done if what is known leaves nothing to do. -/
theorem does_settled (hr : r.IsSound o createRest addRest) {missing : List Column}
    (hrequired : required.Perm r.required) (hsettled : r.settled? o required d = some missing) :
    Shared quiet (return missing) fun w answer w' =>
      w.definition = d → Ensures quiet exact o r w answer w' := by
  obtain ⟨first, hfirst, _⟩ := hr.add
  refine (Does.pure _).mono ?_
  rintro w answer w' ⟨rfl, rfl⟩ rfl
  rw [settled?_eq (by simp [hfirst])] at hsettled
  split at hsettled
  next hempty =>
    cases hsettled
    refine ⟨.refl _, fun h => ⟨h, fun missing hmissing => ?_⟩, fun _ _ _ h => (nomatch h),
      fun _ _ _ h => nomatch h⟩
    cases hmissing
    refine ⟨fun c hc => gap_missing_subset hrequired (Column.mem_sort.1 hc), fun c hc hnot => ?_⟩
    rcases h.backed.gap_cases (hrequired.symm.subset hc) with hc | hc | hc
    · rw [hempty.2] at hc
      cases hc
    · exact absurd (Column.mem_sort.2 hc) hnot
    · exact hc
  · cases hsettled

end Change

/-- What bringing a table in step does, beside any lawful users. -/
theorem does_ensure (hr : r.IsSound o createRest addRest)
    (hexact : exact → quiet ∧ createRest = [] ∧ addRest = []) :
    Shared quiet (r.ensure o) (Ensures quiet exact o r) := by
  have hrequired : (Column.sort r.required).Perm r.required := Column.sort_perm _
  unfold ensure
  refine does_known_bind fun d => ?_
  cases hsettled : r.settled? o (Column.sort r.required) d with
  | some missing => exact does_settled hr hrequired hsettled
  | none =>
    refine (does_refresh o r).bind (fun _ => does_change hr hexact hrequired) ?_ ?_
    · rintro w e w' ⟨hdrift, _, herror, hanswers⟩ _
      refine ⟨.of_drifts hdrift, fun h => ⟨?_, fun _ h => nomatch h⟩, fun hq hreached => ?_,
        fun hq hreached => ?_⟩
      · rw [herror e rfl]
        exact h.mono (hdrift.columnsAt_prefix _) fun he => hdrift.columnsAt_eq (hexact he).1 _
      · cases hanswers hq hreached
      · cases hanswers hq hreached
    · rintro w _ w₁ answer w' ⟨hdrift, hok, _⟩ h _
      exact (h (hok rfl)).of_drifts hdrift (hok rfl)

end Request

end MetricTables
