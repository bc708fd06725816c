import MetricTables.Proofs.Reconcile.Calm

/-!
# Tables without columns

A table without columns is like no table to a request, but it cannot be created. So nothing
is ever done about it, and everything that is required is reported as missing.

## Main statements

* `does_ensure_hollow` — such a table stays as it is.
* `ensure_calm_hollow` — everything is reported on a calm store.
-/

namespace MetricTables

open Reconciliation SharedStore

/-- Whether there is a table without columns at the place. -/
def SharedStore.IsHollow (p : TablePlace) (s : SharedStore) : Prop := s.tables.find? p = some []

namespace SharedStore

variable {p : TablePlace} {s s' : SharedStore}

theorem IsHollow.columnsAt_eq (h : s.IsHollow p) : s.columnsAt p = [] :=
  Catalog.columnsAt_of_find? h

theorem IsHollow.of_drifts (h : s.IsHollow p) (hdrift : Drifts True s s') : s'.IsHollow p := by
  rw [IsHollow, hdrift.tables_eq trivial]
  exact h

end SharedStore

namespace Request

variable {o : Options} {r : Request} {createRest addRest : List Template}

/-! ## What is left alone -/

section Does

variable (hr : r.IsSound o createRest addRest)
  (hcreate : r.createTemplates = .createTable :: createRest)
include hr

/-- A table without columns cannot be created, since it is there. -/
theorem run_createTable_hollow {cs : List Column} (hcs : r.Wants cs) (hne : cs ≠ []) {t : Catalog}
    (h : t.find? (r.place o) = some []) :
    ∃ sql, Template.createTable.render (r.context o cs cs) = .ok sql ∧
      t.run sql = .error (Catalog.relationExists r.table) := by
  have hcontains : t.contains (r.context o cs cs).place = true := by
    show (t.find? (r.place o)).isSome = true
    rw [h]
    rfl
  have hrender := Template.render_createTable (r.context o cs cs)
  refine ⟨_, hrender, (Catalog.run_createTable hrender hne hcs.names ?_).trans (if_pos hcontains)⟩
  exact fun c hc => (hr.recovered c (hcs.subset hc)).type

include hcreate

/-- The first statement is rejected, and the others are not run. -/
theorem does_createTable_hollow {cs : List Column} (hcs : r.Wants cs) (hne : cs ≠ []) :
    Shared True (r.createTable o cs) fun w answer w' => w.store.IsHollow (r.place o) →
      (∃ e, answer = .error e) ∧ w'.definition = .unknown ∧ w'.store.IsHollow (r.place o) := by
  obtain ⟨first, hfirst, hsound⟩ := hr.create
  obtain ⟨rfl, _⟩ := List.cons.inj (hcreate.symm.trans hfirst)
  have hstatement : Shared True (runTemplate o (r.context o cs cs) .createTable) fun w answer w' =>
      w.store.IsHollow (r.place o) →
        (∃ e, answer = .error e) ∧ w'.store.IsHollow (r.place o) := by
    refine (does_runTemplate o _ _).mono ?_
    rintro w answer w' ⟨_, herror, hok⟩ hollow
    cases answer with
    | error e => exact ⟨⟨e, rfl⟩, hollow.of_drifts (herror e rfl)⟩
    | ok _ =>
      obtain ⟨sql, s₁, hrender, hdrift, hrun, _⟩ := hok rfl
      have hollow₁ : s₁.IsHollow (r.place o) := hollow.of_drifts hdrift
      obtain ⟨sql', hrender', hrun'⟩ := run_createTable_hollow hr hcs hne hollow₁
      cases hrender.symm.trans hrender'
      cases hrun.symm.trans hrun'
  have hrest : Shared True (createRest.forM (runTemplate o (r.context o cs cs)))
      fun _ _ _ => True :=
    (does_harmless o r rfl (hsound cs cs hcs hne).2).mono fun _ _ _ _ => trivial
  have hmarks : Shared True (r.markTags o cs) fun _ _ _ => True :=
    (does_marks o r _).mono fun _ _ _ _ => trivial
  have hcarry : Shared True (r.carryOut o r.createTemplates cs cs) fun w answer w' =>
      w.store.IsHollow (r.place o) →
        (∃ e, answer = .error e) ∧ w'.store.IsHollow (r.place o) := by
    have hstatements : Shared True (r.createTemplates.forM (runTemplate o (r.context o cs cs)))
        fun w answer w' => w.store.IsHollow (r.place o) →
          (∃ e, answer = .error e) ∧ w'.store.IsHollow (r.place o) := by
      rw [hcreate]
      refine hstatement.bind (fun _ => hrest) (fun _ _ _ h => h) ?_
      rintro w _ w₁ answer w' h _ hollow
      obtain ⟨⟨e, he⟩, _⟩ := h hollow
      cases he
    refine hstatements.bind (fun _ => hmarks) (fun _ _ _ h => h) ?_
    rintro w _ w₁ answer w' h _ hollow
    obtain ⟨⟨e, he⟩, _⟩ := h hollow
    cases he
  refine does_attempt_bind hcarry (fun _ => does_setDefinition _) does_forget ?_ ?_
  · rintro w _ w₁ answer w' h _ hollow
    obtain ⟨⟨e, he⟩, _⟩ := h hollow
    cases he
  · rintro w e w₁ answer w' h ⟨rfl, rfl⟩ hollow
    exact ⟨⟨e, rfl⟩, rfl, (h hollow).2⟩

omit hr hcreate in
/-- Nothing is known of a table without columns. -/
theorem isKnown_of_hollow {w : Workspace SharedStore} (hollow : w.store.IsHollow (r.place o))
    (h : w.definition = .ofColumns o (w.store.columnsAt (r.place o))) :
    w.definition.isKnown = false := by
  rw [h, hollow.columnsAt_eq]
  rfl

omit hcreate in
/-- The table is asked for again after its creation was rejected. -/
theorem does_recover_hollow {required : List Column} {g : Gap} (hg : r.Wants g.addable)
    (e : SchemaError) : Shared True (r.recover o required g e) fun w _ w' =>
      w.store.IsHollow (r.place o) → w'.store.IsHollow (r.place o) := by
  have hfound : ∀ d : Definition, Shared True (r.catchUp o required g d)
      fun w _ w' => d.isKnown = false → w' = w := by
    intro d
    unfold catchUp
    split
    next hknown =>
      refine (@does_extend True False _ _ _ _ hr False.elim _
        fun c hc => hg.subset (Definition.mem_absent.1 hc).1).mono ?_
      rintro w answer w' _ hd
      cases hknown.symm.trans hd
    next => exact (Does.pure _).mono fun _ _ _ h _ => h.2
  unfold recover
  split
  · refine (@does_refresh_bind True o r _ _ _ hfound).mono ?_
    rintro w answer w' (⟨_, hdrift, _, _⟩ | ⟨w₁, hdrift, hdefinition, h⟩) hollow
    · exact hollow.of_drifts hdrift
    · have hollow₁ : w₁.store.IsHollow (r.place o) := hollow.of_drifts hdrift
      rw [h (isKnown_of_hollow hollow₁ hdefinition)]
      exact hollow₁
  · split
    · exact (Does.throw e).mono fun _ _ _ h hollow => h.2 ▸ hollow
    · exact (Does.pure _).mono fun _ _ _ h hollow => h.2 ▸ hollow

/-- Nothing fills a table without columns but the statements of others. -/
theorem does_changeFrom_hollow {required : List Column} (hrequired : required.Perm r.required)
    (d : Definition) : Shared True (r.changeFrom o required d) fun w _ w' =>
      d.isKnown = false → w.store.IsHollow (r.place o) → w'.store.IsHollow (r.place o) := by
  have hwants : r.Wants (d.gap o.identifierMaxBytes required).addable :=
    wants_gap hr.names hrequired
  unfold changeFrom
  dsimp only
  split
  next hknown =>
    refine (@does_extend True False _ _ _ _ hr False.elim _ hwants.subset).mono ?_
    rintro w answer w' _ hd
    cases hknown.symm.trans hd
  · split
    · exact (Does.pure _).mono fun _ _ _ h _ hollow => h.2 ▸ hollow
    · split
      · exact (Does.throw _).mono fun _ _ _ h _ hollow => h.2 ▸ hollow
      · split
        · exact (Does.pure _).mono fun _ _ _ h _ hollow => h.2 ▸ hollow
        next hempty =>
          have hne : (d.gap o.identifierMaxBytes required).addable ≠ [] := by simpa using hempty
          refine does_attempt_bind (does_createTable_hollow hr hcreate hwants hne)
            (fun _ => Does.pure _) (does_recover_hollow hr hwants) ?_ ?_
          · rintro w _ w₁ answer w' h _ _ hollow
            obtain ⟨⟨e, he⟩, _⟩ := h hollow
            cases he
          · exact fun w e w₁ answer w' h h' _ hollow => h' (h hollow).2.2

/-- A table without columns stays as it is. -/
theorem does_ensure_hollow : Shared True (r.ensure o) fun w _ w' =>
    w.store.IsHollow (r.place o) → w'.store.IsHollow (r.place o) := by
  have hrequired : (Column.sort r.required).Perm r.required := Column.sort_perm _
  refine does_known_bind fun d => ?_
  split
  · exact (Does.pure _).mono fun _ _ _ h _ hollow => h.2 ▸ hollow
  · refine (does_refresh_bind fun d => does_changeFrom_hollow hr hcreate hrequired d).mono ?_
    rintro w answer w' (⟨_, hdrift, _, _⟩ | ⟨w₁, hdrift, hdefinition, h⟩) _ hollow
    · exact hollow.of_drifts hdrift
    · have hollow₁ : w₁.store.IsHollow (r.place o) := hollow.of_drifts hdrift
      exact h (isKnown_of_hollow hollow₁ hdefinition) hollow₁

end Does

/-! ## What is reported -/

section Calm

variable {w : Workspace SharedStore}

/-- Creating the table fails since it is there. -/
theorem createTable_calm_hollow (hr : r.IsSound o createRest addRest)
    (hcreate : r.createTemplates = .createTable :: createRest) (hw : w.store.IsCalm o)
    (hollow : w.store.IsHollow (r.place o)) {cs : List Column} (hcs : r.Wants cs) (hne : cs ≠ []) :
    ∃ w', r.createTable o cs w = (.error (.store (Catalog.relationExists r.table)), w') ∧
      w'.store.IsCalm o ∧ w'.store.IsHollow (r.place o) := by
  obtain ⟨sql, hrender, hrun⟩ := run_createTable_hollow hr hcs hne hollow
  obtain ⟨s', hcall, hs', htables⟩ := execute_calm_error hw hrun
  let w₁ : Workspace SharedStore :=
    { w with store := s', elapsed := w.elapsed + w.store.memory.latency }
  have hstatement : runTemplate o (r.context o cs cs) .createTable w =
      (.error (.store (Catalog.relationExists r.table)), w₁) := by
    unfold runTemplate
    rw [hrender]
    exact run_bounded hw.fast hcall
  have hcarry : r.carryOut o r.createTemplates cs cs w =
      (.error (.store (Catalog.relationExists r.table)), w₁) := by
    rw [hcreate]
    exact run_bind_of_error (run_bind_of_error hstatement)
  refine ⟨{ w₁ with definition := .unknown }, run_bind_of_ok (run_attempt hcarry), hs', ?_⟩
  rw [IsHollow, htables]
  exact hollow

/-- Asking for the table finds no columns. -/
theorem refresh_calm_hollow (hw : w.store.IsCalm o) (hollow : w.store.IsHollow (r.place o)) :
    Succeeds o (r.refresh o) w fun _ w' =>
      w'.store.IsHollow (r.place o) ∧ w'.definition = .unknown := by
  refine (refresh_calm hw).mono ?_
  rintro _ w' ⟨htables, hdefinition⟩
  rw [hollow.columnsAt_eq] at hdefinition
  rw [IsHollow, htables]
  exact ⟨hollow, hdefinition⟩

theorem create_calm_hollow (hr : r.IsSound o createRest addRest)
    (hcreate : r.createTemplates = .createTable :: createRest) (hw : w.store.IsCalm o)
    (hollow : w.store.IsHollow (r.place o)) {required : List Column} {g : Gap}
    (hg : r.Wants g.addable) (hne : g.addable ≠ []) :
    Succeeds o (r.create o required g) w fun missing _ => missing = required := by
  obtain ⟨w₁, hrun, hw₁, hollow₁⟩ := createTable_calm_hollow hr hcreate hw hollow hg hne
  have hagain : Succeeds o (do r.refresh o; r.catchUp o required g (← known)) w₁
      fun missing _ => missing = required := by
    refine .bind (refresh_calm_hollow hw₁ hollow₁) ?_
    rintro _ w₂ hw₂ ⟨_, hunknown⟩
    refine .known_bind ?_
    rw [hunknown]
    exact .pure hw₂ rfl
  obtain ⟨missing, w', hrun', hcalm', hmissing⟩ := hagain
  exact ⟨missing, w', (run_bind_of_ok (run_attempt hrun)).trans hrun', hcalm', hmissing⟩

/-- Everything that is required is reported. -/
theorem ensure_calm_hollow (hr : r.IsSound o createRest addRest)
    (hcreate : r.createTemplates = .createTable :: createRest) (hw : w.store.IsCalm o)
    (hollow : w.store.IsHollow (r.place o))
    (hfits : Identifier.fits o.identifierMaxBytes r.table = true)
    (haddable : ∃ c ∈ r.required, Identifier.fits o.identifierMaxBytes c.name = true)
    (hsettled : r.settled? o (Column.sort r.required) w.definition = none) :
    (r.ensure o w).1 = .ok (Column.sort r.required) := by
  have hrequired : (Column.sort r.required).Perm r.required := Column.sort_perm _
  have hne : (Definition.unknown.gap o.identifierMaxBytes
      (Column.sort r.required)).addable ≠ [] := by
    obtain ⟨c, hc, hname⟩ := haddable
    exact List.ne_nil_of_mem (Definition.mem_addable.2 ⟨hrequired.symm.subset hc, rfl, hname⟩)
  have hensure : Succeeds o (r.ensure o) w fun missing _ => missing = Column.sort r.required := by
    unfold ensure
    refine .known_bind ?_
    rw [hsettled]
    refine .bind (refresh_calm_hollow hw hollow) ?_
    rintro _ w₁ hw₁ ⟨hollow₁, hunknown⟩
    refine .known_bind ?_
    simp only [hunknown, Definition.isKnown_unknown, Bool.false_eq_true, if_false, hcreate,
      List.isEmpty_cons, hfits, Bool.not_true, List.isEmpty_iff, hne]
    exact create_calm_hollow hr hcreate hw₁ hollow₁ (wants_gap hr.names hrequired) hne
  obtain ⟨missing, w', hrun, _, rfl⟩ := hensure
  rw [hrun]

end Calm

end Request

end MetricTables
