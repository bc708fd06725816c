import MetricTables.Proofs.Reconcile.Agreement

/-!
# What may happen to a store

Bringing a table in step does nothing to a store but what its calls do. A relation that
every call keeps, and that holds from end to end if it holds from step to step, is
therefore kept by the whole. So all other tables are left alone, and where nobody else plans
anything nothing else happens.

## Main definitions

* `Frame` — what may happen to a store.
* `Request.IsAllowed` — what a request does at once is allowed.
* `Request.StaysIn` — every call of a request is allowed.

## Main statements

* `keeps_ensure` — bringing a table in step does what is allowed.
* `ensure_elsewhere` — other tables are left alone.
* `ensure_proper` — no table comes to be without columns.
* `ensure_undisturbed` — if nobody plans anything, nobody does anything.
-/

namespace MetricTables

open Reconciliation

/-- What may happen to a store: nothing, and one thing after another. -/
structure Frame (σ : Type) where
  allows : σ → σ → Prop
  refl : ∀ s, allows s s
  trans : ∀ {s s' s''}, allows s s' → allows s' s'' → allows s s''

namespace Frame

variable {σ α β : Type} {F : Frame σ}

/-- A computation does what is allowed, however it ends. -/
def Keeps (F : Frame σ) (x : Reconciliation σ α) : Prop := ∀ w, F.allows w.store (x w).2.store

/-- One state, after what is allowed happened to a store. -/
def Since (F : Frame σ) (s : σ) (w v : Workspace σ) : Prop := v = w ∧ F.allows s w.store

namespace Keeps

variable {x : Reconciliation σ α} {f : α → Reconciliation σ β}

theorem pure (a : α) : F.Keeps (Pure.pure a) := fun _ => F.refl _

theorem throw (e : SchemaError) : F.Keeps (throw e : Reconciliation σ α) := fun _ => F.refl _

theorem setDefinition (g : Definition → Definition) : F.Keeps (setDefinition g) :=
  fun _ => F.refl _

/-- What is allowed in steps is allowed as a whole. -/
theorem bind (hx : F.Keeps x) (hf : ∀ a, F.Keeps (f a)) : F.Keeps (x >>= f) := by
  intro w
  have hfirst := hx w
  rcases hrun : x w with ⟨answer, w₁⟩
  rw [hrun] at hfirst
  cases answer with
  | error e =>
    rw [run_bind_of_error hrun]
    exact hfirst
  | ok a =>
    rw [run_bind_of_ok hrun]
    exact F.trans hfirst (hf a w₁)

theorem forM {γ : Type} {g : γ → Reconciliation σ PUnit} {cs : List γ}
    (hg : ∀ c ∈ cs, F.Keeps (g c)) : F.Keeps (cs.forM g) := by
  induction cs with
  | nil => exact pure _
  | cons c cs ih =>
    exact bind (hg c List.mem_cons_self) fun _ => ih fun d hd => hg d (List.mem_cons_of_mem _ hd)

/-- A call that is given up does nothing. -/
theorem bounded [Store σ] {limit : Duration} {call : σ → Except StoreError α × σ}
    (h : ∀ s, F.allows s (call s).2) : F.Keeps (bounded limit call) := by
  intro w
  unfold Reconciliation.bounded
  split
  · exact F.refl _
  · exact h w.store

/-- A computation that does what is allowed agrees with itself after what was allowed. -/
theorem agree (hx : F.Keeps x) (s : σ) : Agree (F.Since s) x x := by
  rintro w v ⟨rfl, h⟩
  exact ⟨rfl, rfl, F.trans h (hx v)⟩

theorem of_agree (h : ∀ s, Agree (F.Since s) x x) : F.Keeps x :=
  fun w => (h w.store w w ⟨rfl, F.refl _⟩).2.2

end Keeps

end Frame

namespace Request

variable {σ : Type} [Store σ] {F : Frame σ} {o : Options} {r : Request}

/-- What a request does at once is allowed: questions, creations and additions, with their
comments. -/
structure IsAllowed (F : Frame σ) (o : Options) (r : Request) : Prop where
  columns : ∀ s, F.allows s (Store.columns o.namespaceName r.table s).2
  create : ∀ cs, r.Creates o cs → F.Keeps (r.carryOut o r.createTemplates cs cs)
  add : ∀ c, r.Adds o c → ∀ allColumns,
    F.Keeps (r.carryOut o r.addColumnTemplates [c] allColumns)

theorem IsAllowed.agrees (hr : r.IsAllowed F o) (s : σ) : r.Agrees (F.Since s) o where
  definition h := congrArg Workspace.definition h.1.symm
  setDefinition f := Frame.Keeps.agree (.setDefinition f) s
  columns := Frame.Keeps.agree (.bounded hr.columns) s
  create cs hcs := (hr.create cs hcs).agree s
  add c hc allColumns := (hr.add c hc allColumns).agree s

/-- Bringing a table in step does what is allowed, however it ends. -/
theorem keeps_ensure (hr : r.IsAllowed F o) : F.Keeps (r.ensure o) :=
  .of_agree fun s => agree_ensure (hr.agrees s)

/-! ## Calls one by one -/

/-- A template is one call, if it can be rendered. -/
theorem keeps_runTemplate {c : Template.Context} {template : Template}
    (h : ∀ sql, template.render c = .ok sql → ∀ s, F.allows s (Store.execute sql s).2) :
    F.Keeps (runTemplate o c template) := by
  unfold runTemplate
  cases hrender : template.render c with
  | error fault => exact .throw _
  | ok sql => exact .bounded (h sql hrender)

theorem keeps_carryOut {templates : List Template} {cs allColumns : List Column}
    (hrun : ∀ template ∈ templates, F.Keeps (runTemplate o (r.context o cs allColumns) template))
    (hcomment : ∀ name s,
      F.allows s (Store.comment o.namespaceName r.table name tagComment s).2) :
    F.Keeps (r.carryOut o templates cs allColumns) :=
  .bind (.forM hrun) fun _ => .forM fun c _ => .bounded (hcomment c.name)

/-- Every call that a request can make is allowed. -/
structure StaysIn (F : Frame σ) (o : Options) (r : Request) : Prop where
  names : (r.required.map Column.name).Nodup
  columns : ∀ s, F.allows s (Store.columns o.namespaceName r.table s).2
  comment : ∀ name s, F.allows s (Store.comment o.namespaceName r.table name tagComment s).2
  create : ∀ cs, r.Wants cs → cs ≠ [] → ∀ template ∈ r.createTemplates,
    F.Keeps (runTemplate o (r.context o cs cs) template)
  add : ∀ c ∈ r.required, ∀ allColumns, ∀ template ∈ r.addColumnTemplates,
    F.Keeps (runTemplate o (r.context o [c] allColumns) template)

theorem StaysIn.isAllowed (hr : r.StaysIn F o) : r.IsAllowed F o where
  columns := hr.columns
  create cs hcs := by
    have hnames : (cs.map Column.name).Nodup :=
      (hcs.perm.map _).nodup_iff.2 (hr.names.sublist (List.filter_sublist.map _))
    exact keeps_carryOut (hr.create cs ⟨fun c hc => (hcs.adds hc).required, hnames⟩ hcs.nonempty)
      hr.comment
  add c hc allColumns := keeps_carryOut (hr.add c hc.required allColumns) hr.comment

end Request

/-! ## Other tables -/

open SharedStore

variable {quiet : Prop} {q : TablePlace} {o : Options} {r : Request}

/-- No column that is wanted, no new column. -/
theorem Extends.columnsAt_eq {s s' : SharedStore} (h : Extends quiet True [] q s s') (hq : quiet) :
    s'.columnsAt q = s.columnsAt q := by
  obtain ⟨new, hnew, hwanted⟩ := h.grows
  have hnil : new = [] := by
    refine List.eq_nil_iff_forall_not_mem.2 fun x hx => ?_
    obtain ⟨c, hc, _⟩ := (hwanted hq).2 x hx
    cases hc
  rw [hnew, hnil, List.append_nil]

/-- Nothing happens at a place but what others do. -/
def elsewhere (quiet : Prop) (q : TablePlace) : Frame SharedStore where
  allows s s' := s.Later s' ∧ (s'.Lawful quiet → Extends quiet True [] q s s')
  refl s := ⟨.refl s, fun _ => .refl s⟩
  trans h h' := ⟨h.1.trans h'.1, fun hl => (h.2 (h'.1.lawful hl)).trans (h'.2 hl)⟩

/-- What changes the tables at one place leaves another one alone. -/
theorem elsewhere_of_changes {change : Catalog → Except StoreError Catalog} {s s' : SharedStore}
    {answer : Except StoreError Unit}
    (hchange : ∀ t t' : Catalog, change t = .ok t' → t'.columnsAt q = t.columnsAt q)
    (h : Changes quiet change s answer s') : Extends quiet True [] q s s' := by
  cases answer with
  | error e => exact .of_drifts (h.rejected e rfl)
  | ok _ =>
    obtain ⟨s₁, hdrift, hchanged, hreach, _⟩ := h.accepted rfl
    have hextends : Extends quiet True [] q s s₁ := .of_drifts hdrift
    obtain ⟨new, hnew, hwanted⟩ := hextends.grows
    exact ⟨⟨new, (hchange _ _ hchanged).trans hnew, hwanted⟩,
      fun hq => hreach.trans (hdrift.reach_eq hq)⟩

theorem Catalog.columnsAt_of_comment {t t' : Catalog} {p : TablePlace} {n text : String}
    (hne : q ≠ p) (h : t.comment p n text = .ok t') : t'.columnsAt q = t.columnsAt q := by
  unfold comment at h
  split at h
  · cases h
  · split at h
    · cases h
    · cases h
      exact columnsAt_insert_of_ne t hne _

/-- A statement that adds columns at a place leaves another one alone. -/
theorem elsewhere_keeps_runTemplate {cs allColumns : List Column} {template : Template}
    (hne : q ≠ r.place o) (h : template.Adds (r.context o cs allColumns)) :
    (elsewhere quiet q).Keeps (Request.runTemplate o (r.context o cs allColumns) template) := by
  refine Request.keeps_runTemplate fun sql hrender s => ⟨later_execute s sql, fun hl => ?_⟩
  refine elsewhere_of_changes (fun t t' hrun => ?_) (execute_changes s sql hl)
  rw [(h sql t t' hrender hrun).2]
  exact Catalog.columnsAt_insert_of_ne t hne _

/-- A request leaves the places of all other tables to their users. -/
theorem staysIn_elsewhere (hr : r.IsSound o [] []) (hne : q ≠ r.place o) :
    r.StaysIn (elsewhere quiet q) o where
  names := hr.names
  columns s :=
    ⟨later_columns (r.place o) s, fun hl => .of_drifts (columns_drifts (r.place o) s hl).1⟩
  comment name s := by
    refine ⟨later_comment (r.place o) s name tagComment, fun hl => ?_⟩
    exact elsewhere_of_changes (fun t t' h => Catalog.columnsAt_of_comment hne h)
      (comment_changes (r.place o) s name tagComment hl)
  create cs hcs hnil template htemplate := by
    obtain ⟨first, hfirst, hcreate⟩ := hr.create
    rw [hfirst, List.mem_singleton] at htemplate
    rw [htemplate]
    exact elsewhere_keeps_runTemplate hne (hcreate cs cs hcs hnil).1
  add c hc allColumns template htemplate := by
    obtain ⟨first, hfirst, hadd⟩ := hr.add
    rw [hfirst, List.mem_singleton] at htemplate
    rw [htemplate]
    exact elsewhere_keeps_runTemplate hne (hadd c hc allColumns).1

/-- If every list of templates is one statement, a request leaves all other tables alone. -/
theorem ensure_elsewhere (hr : r.IsSound o [] []) (hne : q ≠ r.place o) :
    (elsewhere quiet q).Keeps (r.ensure o) :=
  Request.keeps_ensure (staysIn_elsewhere hr hne).isAllowed

/-! ## Tables without columns -/

/-- If others are quiet, the table at a place does not come to be without columns. -/
def proper (p : TablePlace) : Frame SharedStore where
  allows s s' := s.Later s' ∧ (s'.Lawful True → s.tables.ProperAt p → s'.tables.ProperAt p)
  refl s := ⟨.refl s, fun _ h => h⟩
  trans h h' := ⟨h.1.trans h'.1, fun hl hp => h'.2 hl (h.2 (h'.1.lawful hl) hp)⟩

theorem proper_of_changes {p : TablePlace} {change : Catalog → Except StoreError Catalog}
    {s s' : SharedStore} {answer : Except StoreError Unit}
    (hchange : ∀ t t' : Catalog, t.ProperAt p → change t = .ok t' → t'.ProperAt p)
    (h : Changes True change s answer s') (hp : s.tables.ProperAt p) : s'.tables.ProperAt p := by
  cases answer with
  | error e =>
    rw [(h.rejected e rfl).tables_eq trivial]
    exact hp
  | ok _ =>
    obtain ⟨s₁, hdrift, hchanged, _⟩ := h.accepted rfl
    refine hchange _ _ ?_ hchanged
    rw [hdrift.tables_eq trivial]
    exact hp

/-- If others are quiet, no request leaves a table without columns, whatever its templates are. -/
theorem ensure_proper (p : TablePlace) (hnames : (r.required.map Column.name).Nodup) :
    (proper p).Keeps (r.ensure o) := by
  have hrun : ∀ (c : Template.Context) (template : Template),
      (proper p).Keeps (Request.runTemplate o c template) := fun _ _ =>
    Request.keeps_runTemplate fun sql _ s => ⟨later_execute s sql, fun hl =>
      proper_of_changes (fun _ _ => Catalog.run_properAt) (execute_changes s sql hl)⟩
  refine Request.keeps_ensure (r := r)
    (Request.StaysIn.isAllowed ⟨hnames, fun s => ?_, fun name s => ?_, ?_, ?_⟩)
  · refine ⟨later_columns (r.place o) s, fun hl hp => ?_⟩
    have htables : (Store.columns o.namespaceName r.table s).2.tables = s.tables :=
      (columns_drifts (r.place o) s hl).1.tables_eq trivial
    rw [htables]
    exact hp
  · exact ⟨later_comment (r.place o) s name tagComment, fun hl =>
      proper_of_changes (fun _ _ => Catalog.comment_properAt)
        (comment_changes (r.place o) s name tagComment hl)⟩
  · exact fun _ _ _ template _ => hrun _ template
  · exact fun _ _ _ template _ => hrun _ template

/-! ## Stores without other users -/

/-- Whether nobody plans to do anything. -/
structure SharedStore.IsUndisturbed (s : SharedStore) : Prop where
  turns : s.turns = []
  writes : s.memory.otherWrites = []

/-- A store that nobody else uses stays like that, and is left alone. -/
def undisturbed : Frame SharedStore where
  allows s s' := s.IsUndisturbed → s'.IsUndisturbed ∧ ∀ a ∈ s'.acts, a ∈ s.acts ∨ a.Leaves
  refl s hs := ⟨hs, fun _ ha => .inl ha⟩
  trans h h' hs := by
    obtain ⟨hs', hacts⟩ := h hs
    obtain ⟨hs'', hacts'⟩ := h' hs'
    exact ⟨hs'', fun a ha => (hacts' a ha).elim (hacts a) .inr⟩

namespace SharedStore

variable {s : SharedStore}

theorem takeTurn_of_undisturbed (hs : s.IsUndisturbed) : s.takeTurn = s := by
  rw [takeTurn, hs.turns]

/-- A call that plans no writes keeps a store undisturbed. -/
theorem undisturbed_call {α : Type} {f : MemoryStore → Except StoreError α × MemoryStore}
    (hs : s.IsUndisturbed) (hf : (f s.memory).2.otherWrites = s.memory.otherWrites) :
    (s.call f).2.IsUndisturbed ∧ ∀ a ∈ (s.call f).2.acts, a ∈ s.acts ∨ a.Leaves :=
  ⟨⟨hs.turns, hf.trans hs.writes⟩, fun _ ha => .inl ha⟩

theorem undisturbed_columns (n t : String) (s : SharedStore) :
    undisturbed.allows s (Store.columns n t s).2 := by
  intro hs
  show (s.takeTurn.call _).2.IsUndisturbed ∧ ∀ a ∈ (s.takeTurn.call _).2.acts, _
  rw [takeTurn_of_undisturbed hs]
  refine undisturbed_call hs ?_
  show (s.memory.columns (n, t)).2.otherWrites = _
  unfold MemoryStore.columns
  split <;> rfl

theorem undisturbed_comment (n t column text : String) (s : SharedStore) :
    undisturbed.allows s (Store.comment n t column text s).2 := by
  intro hs
  show (s.takeTurn.call _).2.IsUndisturbed ∧ ∀ a ∈ (s.takeTurn.call _).2.acts, _
  rw [takeTurn_of_undisturbed hs]
  refine undisturbed_call hs ?_
  show (s.memory.comment (n, t) column text).2.otherWrites = _
  unfold MemoryStore.comment
  split
  · rfl
  · split <;> rfl

/-- An execution on a store that nobody else uses invites nobody. -/
theorem undisturbed_execute (sql : String) (s : SharedStore) :
    undisturbed.allows s (Store.execute sql s).2 := by
  intro hs
  have hland : s.memory.landWrite = s.memory := by rw [MemoryStore.landWrite, hs.writes]
  show (execute sql s).2.IsUndisturbed ∧ ∀ a ∈ (execute sql s).2.acts, _
  rw [execute, takeTurn_of_undisturbed hs, hland]
  split
  · exact ⟨hs, fun _ ha => .inl ha⟩
  · have hnoted : (s.note s.memory).IsUndisturbed := ⟨hs.turns, hs.writes⟩
    have hcall := undisturbed_call (f := fun m => m.executeUndisturbed sql) hnoted (by
      show (s.memory.executeUndisturbed sql).2.otherWrites = s.memory.otherWrites
      unfold MemoryStore.executeUndisturbed MemoryStore.runText
      split
      · rfl
      · split
        · rfl
        · split <;> rfl)
    refine ⟨hcall.1, fun a ha => ?_⟩
    rcases hcall.2 a ha with ha | ha
    · rcases List.mem_append.1 ha with ha | ha
      · exact .inl ha
      · rw [List.mem_singleton.1 ha]
        exact .inr ⟨rfl, rfl, rfl⟩
    · exact .inr ha

end SharedStore

/-- If nobody plans anything, nobody does anything while a table is brought in step. -/
theorem ensure_undisturbed (hnames : (r.required.map Column.name).Nodup) :
    undisturbed.Keeps (r.ensure o) := by
  have hrun : ∀ (c : Template.Context) (template : Template),
      undisturbed.Keeps (Request.runTemplate o c template) :=
    fun _ _ => Request.keeps_runTemplate fun sql _ => undisturbed_execute sql
  refine Request.keeps_ensure (r := r)
    (Request.StaysIn.isAllowed ⟨hnames, undisturbed_columns _ _, ?_, ?_, ?_⟩)
  · exact fun name => undisturbed_comment _ _ name _
  · exact fun _ _ _ template _ => hrun _ template
  · exact fun _ _ _ template _ => hrun _ template

end MetricTables
