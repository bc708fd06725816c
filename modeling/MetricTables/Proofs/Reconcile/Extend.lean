import MetricTables.Proofs.Reconcile.Statements

/-!
# Adding columns

What adding columns to an existing table does to it and to what is known of it, beside other
users. A definition that was backed by its table stays backed whatever happens, and every
column that is not given back is held by the table in the end. If others are quiet and every
list of templates is one statement, the definition is even exactly what the table is read as.

## Main definitions

* `Request.IsSound` — the request can be carried out column by column.
* `Extends` — what a request may do to its table.
* `Fills` — what adding what a table lacks may do.

## Main statements

* `does_addColumns` — what adding columns one after the other does.
* `does_extend` — what adding what a table lacks does.
-/

namespace MetricTables

open Reconciliation SharedStore

/-! ## Requests -/

namespace Request

/-- Columns that a request may ask for together. -/
structure Wants (r : Request) (cs : List Column) : Prop where
  subset : cs ⊆ r.required
  names : (cs.map Column.name).Nodup

/-- The required columns have different names and are read back as they are asked for, and
of every list of templates the first adds the columns and the others leave the table alone. -/
structure IsSound (o : Options) (r : Request) (createRest addRest : List Template) : Prop where
  names : (r.required.map Column.name).Nodup
  recovered : ∀ c ∈ r.required, c.IsRecovered o
  create : ∃ first, r.createTemplates = first :: createRest ∧ ∀ cs allColumns, r.Wants cs →
    cs ≠ [] → first.Adds (r.context o cs allColumns) ∧
      ∀ template ∈ createRest, template.IsHarmless (r.context o cs allColumns)
  add : ∃ first, r.addColumnTemplates = first :: addRest ∧ ∀ c ∈ r.required, ∀ allColumns,
    first.Adds (r.context o [c] allColumns) ∧
      ∀ template ∈ addRest, template.IsHarmless (r.context o [c] allColumns)

end Request

/-! ## What may happen to a table -/

/-- Columns are appended; if others are quiet only such that are wanted and that the table
did not have, each once, marked or, if it need not be exact, not. -/
structure Extends (quiet exact : Prop) (cs : List Column) (p : TablePlace) (s s' : SharedStore) :
    Prop where
  grows : ∃ new, s'.columnsAt p = s.columnsAt p ++ new ∧
    (quiet → (new.map StoredColumn.name).Nodup ∧ ∀ x ∈ new, ∃ c ∈ cs,
      c.name ∉ (s.columnsAt p).map StoredColumn.name ∧ (x = c.marked ∨ ¬ exact ∧ x = c.stored))
  reach_eq : quiet → s'.reach = s.reach

namespace Extends

variable {quiet exact : Prop} {cs cs' : List Column} {p : TablePlace} {s s' s'' : SharedStore}

theorem le (h : Extends quiet exact cs p s s') : s.columnsAt p <+: s'.columnsAt p := by
  obtain ⟨new, hnew, _⟩ := h.grows
  exact ⟨new, hnew.symm⟩

theorem of_drifts (h : Drifts quiet s s') : Extends quiet exact cs p s s' where
  grows := by
    obtain ⟨new, hnew, hquiet⟩ := h.columnsAt_append p
    refine ⟨new, hnew, fun hq => ?_⟩
    obtain rfl := hquiet hq
    exact ⟨List.nodup_nil, fun _ hx => nomatch hx⟩
  reach_eq := h.reach_eq

theorem refl (s : SharedStore) : Extends quiet exact cs p s s := of_drifts (.refl s)

theorem trans (h : Extends quiet exact cs p s s') (h' : Extends quiet exact cs p s' s'') :
    Extends quiet exact cs p s s'' where
  grows := by
    obtain ⟨new, hnew, hwanted⟩ := h.grows
    obtain ⟨new', hnew', hwanted'⟩ := h'.grows
    refine ⟨new ++ new', by rw [hnew', hnew, List.append_assoc], fun hq => ?_⟩
    obtain ⟨hnames, hnew_wanted⟩ := hwanted hq
    obtain ⟨hnames', hnew_wanted'⟩ := hwanted' hq
    rw [hnew] at hnew_wanted'
    refine ⟨?_, fun x hx => ?_⟩
    · rw [List.map_append]
      refine List.nodup_append.2 ⟨hnames, hnames', fun n hn m hm heq => ?_⟩
      obtain ⟨x, hx, rfl⟩ := List.mem_map.1 hm
      obtain ⟨c, _, hfresh, hx⟩ := hnew_wanted' x hx
      have hname : x.name = c.name := by rcases hx with rfl | ⟨_, rfl⟩ <;> simp
      refine hfresh ?_
      rw [List.map_append, ← hname, ← heq]
      exact List.mem_append_right _ hn
    · rcases List.mem_append.1 hx with hx | hx
      · exact hnew_wanted x hx
      · obtain ⟨c, hc, hfresh, hx⟩ := hnew_wanted' x hx
        refine ⟨c, hc, fun hmem => hfresh ?_, hx⟩
        rw [List.map_append]
        exact List.mem_append_left _ hmem
  reach_eq hq := (h'.reach_eq hq).trans (h.reach_eq hq)

theorem mono (h : Extends quiet exact cs p s s') (hcs : cs ⊆ cs') :
    Extends quiet exact cs' p s s' where
  grows := by
    obtain ⟨new, hnew, hwanted⟩ := h.grows
    refine ⟨new, hnew, fun hq => ⟨(hwanted hq).1, fun x hx => ?_⟩⟩
    obtain ⟨c, hc, hx⟩ := (hwanted hq).2 x hx
    exact ⟨c, hcs hc, hx⟩
  reach_eq := h.reach_eq

theorem of_carriesOut {single succeeded : Prop} (hnames : (cs.map Column.name).Nodup)
    (hsingle : exact → single) (hreach : quiet → s'.reach = s.reach)
    (h : Request.CarriesOut quiet cs single (s.columnsAt p) succeeded (s'.columnsAt p)) :
    Extends quiet exact cs p s s' where
  grows := by
    obtain ⟨new, hnew⟩ := h.grows
    refine ⟨new, hnew.symm, fun hq => ?_⟩
    by_cases hs : succeeded
    · obtain ⟨old, more, _, hfresh, hcolumns, hquiet⟩ := h.done hs
      obtain ⟨rfl, rfl⟩ := hquiet hq
      rw [← hnew, List.append_nil, List.append_cancel_left_eq] at hcolumns
      subst hcolumns
      refine ⟨by simpa [Function.comp_def] using hnames, fun x hx => ?_⟩
      obtain ⟨c, hc, rfl⟩ := List.mem_map.1 hx
      exact ⟨c, hc, hfresh c hc, .inl rfl⟩
    · rcases h.failed hs hq with heq | ⟨hnot, hfresh, heq⟩
      · rw [← hnew] at heq
        obtain rfl : new = [] := by simpa using heq
        exact ⟨List.nodup_nil, fun _ hx => nomatch hx⟩
      · rw [← hnew, List.append_cancel_left_eq] at heq
        subst heq
        refine ⟨by simpa [Function.comp_def] using hnames, fun x hx => ?_⟩
        obtain ⟨c, hc, rfl⟩ := List.mem_map.1 hx
        exact ⟨c, hc, hfresh c hc, .inr ⟨fun he => hnot (hsingle he), rfl⟩⟩
  reach_eq := hreach

end Extends

namespace Request

variable {quiet exact : Prop} {o : Options} {r : Request} {createRest addRest : List Template}

/-! ## Adding one column -/

/-- A column is inserted into the definition once it stands marked in the table. -/
theorem does_addColumn (hr : r.IsSound o createRest addRest) (hexact : exact → addRest = [])
    {c : Column} (hc : c ∈ r.required) :
    Shared quiet (r.addColumn o c) fun w answer w' =>
      Extends quiet exact [c] (r.place o) w.store w'.store ∧
      (answer = .ok ⟨⟩ → ∃ old more, w.store.columnsAt (r.place o) <+: old ∧
        w'.store.columnsAt (r.place o) = old ++ [c.marked] ++ more ∧
        (quiet → old = w.store.columnsAt (r.place o) ∧ more = []) ∧
        w'.definition = w.definition.insert c) ∧
      (∀ e, answer = .error e → w'.definition = w.definition ∧
        (quiet ∧ addRest = [] →
          w'.store.columnsAt (r.place o) = w.store.columnsAt (r.place o))) := by
  obtain ⟨first, hfirst, hadd⟩ := hr.add
  have hnames : ([c].map Column.name).Nodup := List.nodup_singleton _
  unfold addColumn
  rw [hfirst]
  refine does_known_bind fun d => ((does_carryOut o r hnames (hadd c hc _).1 (hadd c hc _).2).bind
    (fun _ => does_setDefinition _) ?_ ?_).mono fun _ _ _ h _ => h
  · rintro w e w' ⟨hdefinition, hreach, hcarries⟩
    refine ⟨.of_carriesOut hnames hexact hreach hcarries, fun h => (nomatch h), fun _ _ => ?_⟩
    refine ⟨hdefinition, ?_⟩
    rintro ⟨hq, hsingle⟩
    rcases hcarries.failed (fun h => nomatch h) hq with heq | ⟨hrest, _⟩
    · exact heq
    · exact absurd hsingle hrest
  · rintro w _ w₁ answer w' ⟨hdefinition, hreach, hcarries⟩ ⟨rfl, rfl⟩
    refine ⟨.of_carriesOut hnames hexact hreach hcarries, fun _ => ?_, fun _ h => (nomatch h)⟩
    obtain ⟨old, more, hle, _, hcolumns, hquiet⟩ := hcarries.done rfl
    exact ⟨old, more, hle, hcolumns, hquiet, congrArg (·.insert c) hdefinition⟩

/-- A computation on what the store says when it is asked. If it is not asked with success
nothing is done; a store that is reached answers. -/
theorem does_refresh_bind {α : Type} {f : Definition → Reconciliation SharedStore α}
    {Q : Definition → Workspace SharedStore → Except SchemaError α → Workspace SharedStore → Prop}
    (hf : ∀ d, Shared quiet (f d) (Q d)) :
    Shared quiet (do r.refresh o; f (← known)) fun w answer w' =>
      ((∃ e, answer = .error e) ∧ Drifts quiet w.store w'.store ∧ w'.definition = w.definition ∧
        ¬ (quiet ∧ w.store.IsReached o)) ∨
      ∃ w₁, Drifts quiet w.store w₁.store ∧
        w₁.definition = .ofColumns o (w₁.store.columnsAt (r.place o)) ∧
        Q w₁.definition w₁ answer w' := by
  have hread : Shared quiet (do f (← known)) fun w answer w' => Q w.definition w answer w' :=
    does_known_bind fun d => (hf d).mono fun w answer w' h hd => hd ▸ h
  refine (does_refresh o r).bind (fun _ => hread) ?_ ?_
  · rintro w e w' ⟨hdrift, _, herror, hanswers⟩
    refine .inl ⟨⟨e, rfl⟩, hdrift, herror e rfl, fun ⟨hq, hreached⟩ => ?_⟩
    cases hanswers hq hreached
  · rintro w _ w₁ answer w' ⟨hdrift, hok, _, _⟩ h
    exact .inr ⟨w₁, hdrift, hok rfl, h⟩

/-- What follows a column that was not added: if it was there already, it may be as wanted. -/
def recheck {σ : Type} [Store σ] (o : Options) (r : Request) (c : Column) (e : SchemaError) :
    Reconciliation σ Bool := do
  if e.isDuplicateObject then
    r.refresh o
    return ((← known).find? c.name).any fun existing => existing.holds c
  else if e.isTemporary then throw e
  else return false

/-- What looking at a column again may find. -/
inductive Rechecks (quiet : Prop) (o : Options) (r : Request) (c : Column)
    (w : Workspace SharedStore) (answer : Except SchemaError Bool) (w' : Workspace SharedStore) :
    Prop
  | kept (table : Drifts quiet w.store w'.store) (definition : w'.definition = w.definition)
    (answer : answer ≠ .ok true)
  | asked (table : Drifts quiet w.store w'.store)
    (definition : w'.definition = .ofColumns o (w'.store.columnsAt (r.place o)))
    (answer : answer = .ok ((w'.definition.find? c.name).any fun existing => existing.holds c))

/-- A column that could not be added is held if a question finds it, whoever added it. -/
theorem does_recheck (c : Column) (e : SchemaError) :
    Shared quiet (r.recheck o c e) (Rechecks quiet o r c) := by
  unfold recheck
  split
  · have hread := @does_refresh_bind quiet o r Bool _ _ fun d =>
      Does.pure ((d.find? c.name).any fun existing => existing.holds c)
    refine hread.mono ?_
    rintro w answer w' (⟨⟨e, rfl⟩, hdrift, hdefinition, _⟩ | ⟨w₁, hdrift, hofColumns, rfl, rfl⟩)
    · exact .kept hdrift hdefinition fun hok => nomatch hok
    · exact .asked hdrift hofColumns rfl
  · split
    · refine (Does.throw e).mono ?_
      rintro w answer w' ⟨rfl, rfl⟩
      exact .kept (.refl _) rfl fun hok => nomatch hok
    · refine (Does.pure false).mono ?_
      rintro w answer w' ⟨rfl, rfl⟩
      exact .kept (.refl _) rfl fun hok => nomatch hok

/-- What an attempt to add a column may do. -/
structure Tries (quiet exact : Prop) (o : Options) (r : Request) (c : Column)
    (w : Workspace SharedStore) (answer : Except SchemaError Bool) (w' : Workspace SharedStore) :
    Prop where
  table : Extends quiet exact [c] (r.place o) w.store w'.store
  definition : w.definition.Exact o exact (w.store.columnsAt (r.place o)) →
    w'.definition.Exact o exact (w'.store.columnsAt (r.place o)) ∧
      (answer = .ok true → Held o (w'.store.columnsAt (r.place o)) c)
  kept : quiet → w.store.IsReached o → ∀ e, answer = .error e → w'.definition = w.definition

/-- A column is added here, found as another writer left it, or reported. -/
theorem does_tryAddColumn (hr : r.IsSound o createRest addRest) {c : Column}
    (hc : c ∈ r.required) (hexact : exact → quiet ∧ createRest = [] ∧ addRest = []) :
    Shared quiet (r.tryAddColumn o c) (Tries quiet exact o r c) := by
  refine does_attempt_bind (does_addColumn hr (fun he => (hexact he).2.2) hc)
    (fun _ => Does.pure true) (does_recheck c) ?_ ?_
  · rintro w _ w₁ answer w' ⟨htable, hok, _⟩ ⟨rfl, rfl⟩
    obtain ⟨old, more, hle, hcolumns, hquiet, hdefinition⟩ := hok rfl
    refine ⟨htable, fun h => ⟨?_, fun _ => ?_⟩, fun _ _ _ h => nomatch h⟩
    · rw [hcolumns, hdefinition]
      exact h.insertAll [c] hle (by simpa using hr.recovered c hc) fun he => hquiet (hexact he).1
    · exact .of_marked (hr.recovered c hc) (by simp [hcolumns])
  · rintro w e w₁ answer w' ⟨htable, _, herror⟩ hrechecks
    obtain ⟨hdefinition, hcolumns⟩ := herror e rfl
    cases hrechecks with
    | kept hdrift hkept hanswer =>
      have htable' := htable.trans (.of_drifts hdrift)
      refine ⟨htable', fun h => ⟨?_, fun hok => absurd hok hanswer⟩,
        fun _ _ _ _ => hkept.trans hdefinition⟩
      rw [hkept, hdefinition]
      refine h.mono htable'.le fun he => ?_
      exact (hdrift.columnsAt_eq (hexact he).1 _).trans (hcolumns ⟨(hexact he).1, (hexact he).2.2⟩)
    | asked hdrift hofColumns hanswer =>
      have hex : w'.definition.Exact o exact (w'.store.columnsAt (r.place o)) := by
        rw [hofColumns]
        exact Definition.exact_ofColumns
      refine ⟨htable.trans (.of_drifts hdrift), fun _ => ⟨hex, fun hok => ?_⟩,
        fun _ _ _ h => nomatch hanswer.symm.trans h⟩
      have hany : (w'.definition.find? c.name).any (fun existing => existing.holds c) = true := by
        simpa using hanswer.symm.trans hok
      obtain ⟨existing, hfind, hholds⟩ := (Option.any_eq_true _ _).1 hany
      exact hex.backed.held hfind hholds

/-! ## Adding columns -/

/-- The columns have different names, none of which the table has. -/
structure Fresh (cs : List Column) (cols : List StoredColumn) : Prop where
  names : (cs.map Column.name).Nodup
  new : ∀ c ∈ cs, c.name ∉ cols.map StoredColumn.name

/-- Behind a column that was added the others are still fresh. -/
theorem Fresh.marked {c : Column} {cs : List Column} {cols : List StoredColumn}
    (h : Fresh (c :: cs) cols) : Fresh cs (cols ++ [c.marked]) := by
  obtain ⟨hc, hnames⟩ := List.nodup_cons.1 h.names
  refine ⟨hnames, fun d hd hmem => ?_⟩
  rw [List.map_append, List.mem_append] at hmem
  rcases hmem with hmem | hmem
  · exact h.new d (List.mem_cons_of_mem _ hd) hmem
  · have hname : d.name = c.name := by simpa using hmem
    exact hc (hname ▸ List.mem_map.2 ⟨d, hd, rfl⟩)

/-- Behind the first column the others are still fresh, whatever happened to the first. -/
theorem Fresh.tail {c : Column} {cs : List Column} {p : TablePlace} {s s' : SharedStore}
    (h : Fresh (c :: cs) (s.columnsAt p)) (hq : quiet) (hs : Extends quiet exact [c] p s s') :
    Fresh cs (s'.columnsAt p) := by
  obtain ⟨hc, hcs⟩ := List.nodup_cons.1 h.names
  refine ⟨hcs, fun d hd hmem => ?_⟩
  obtain ⟨new, hnew, hwanted⟩ := hs.grows
  rw [hnew, List.map_append, List.mem_append] at hmem
  rcases hmem with hmem | hmem
  · exact h.new d (List.mem_cons_of_mem _ hd) hmem
  · obtain ⟨x, hx, hname⟩ := List.mem_map.1 hmem
    obtain ⟨e, he, _, hx⟩ := (hwanted hq).2 x hx
    obtain rfl := List.mem_singleton.1 he
    have hxname : x.name = e.name := by rcases hx with rfl | ⟨_, rfl⟩ <;> simp
    exact hc (List.mem_map.2 ⟨d, hd, hname.symm.trans hxname⟩)

/-- What adding columns one after the other may do: those that are not given back are held
afterwards. If others are quiet and the store is reached, adding ends early only at a column
that is not known then. -/
structure AddsAll (quiet exact : Prop) (o : Options) (r : Request) (cs : List Column)
    (w : Workspace SharedStore) (answer : Except SchemaError (List Column))
    (w' : Workspace SharedStore) : Prop where
  table : Extends quiet exact cs (r.place o) w.store w'.store
  definition : w.definition.Exact o exact (w.store.columnsAt (r.place o)) →
    w'.definition.Exact o exact (w'.store.columnsAt (r.place o)) ∧
      ∀ failed, answer = .ok failed →
        failed ⊆ cs ∧ ∀ c ∈ cs, c ∉ failed → Held o (w'.store.columnsAt (r.place o)) c
  unknown : quiet → w.store.IsReached o → Fresh cs (w.store.columnsAt (r.place o)) →
    w.definition.Exact o exact (w.store.columnsAt (r.place o)) →
    ∀ e, answer = .error e → ∃ c ∈ cs, w'.definition.find? c.name = none

namespace AddsAll

variable {c : Column} {cs : List Column} {w w₁ w' : Workspace SharedStore} {e : SchemaError}
  {added : Bool} {answer : Except SchemaError (List Column)}

theorem nil : AddsAll quiet exact o r [] w (.ok []) w where
  table := .refl _
  definition h := by
    refine ⟨h, fun failed hok => ?_⟩
    cases hok
    exact ⟨List.Subset.refl _, fun _ h => nomatch h⟩
  unknown _ _ _ _ _ h := nomatch h

/-- Adding ends at the first column. -/
theorem of_tries (h : Tries quiet exact o r c w (.error e) w') :
    AddsAll quiet exact o r (c :: cs) w (.error e) w' where
  table := h.table.mono (by simp)
  definition hex := ⟨(h.definition hex).1, fun _ h => nomatch h⟩
  unknown hq hreached hfresh hex _ _ := by
    refine ⟨c, List.mem_cons_self, ?_⟩
    rw [h.kept hq hreached e rfl]
    exact hex.backed.find?_eq_none (hfresh.new c List.mem_cons_self)

theorem table_cons (h : Tries quiet exact o r c w (.ok added) w₁)
    (h' : AddsAll quiet exact o r cs w₁ answer w') :
    Extends quiet exact (c :: cs) (r.place o) w.store w'.store :=
  (h.table.mono (by simp)).trans (h'.table.mono (List.subset_cons_self _ _))

/-- Adding ends behind the first column. -/
theorem error_cons (h : Tries quiet exact o r c w (.ok added) w₁)
    (h' : AddsAll quiet exact o r cs w₁ (.error e) w') :
    AddsAll quiet exact o r (c :: cs) w (.error e) w' where
  table := table_cons h h'
  definition hex := ⟨(h'.definition (h.definition hex).1).1, fun _ h => nomatch h⟩
  unknown hq hreached hfresh hex _ _ := by
    have hreached₁ := isReached_of_reach_eq (h.table.reach_eq hq) hreached
    obtain ⟨d, hd, hfind⟩ :=
      h'.unknown hq hreached₁ (hfresh.tail hq h.table) (h.definition hex).1 e rfl
    exact ⟨d, List.mem_cons_of_mem _ hd, hfind⟩

/-- The first column is given back unless it was added. -/
theorem ok_cons {rest : List Column} (h : Tries quiet exact o r c w (.ok added) w₁)
    (h' : AddsAll quiet exact o r cs w₁ (.ok rest) w') :
    AddsAll quiet exact o r (c :: cs) w (.ok (if added then rest else c :: rest)) w' where
  table := table_cons h h'
  definition hex := by
    obtain ⟨hex₁, hheld⟩ := h.definition hex
    obtain ⟨hex', hfailed⟩ := h'.definition hex₁
    obtain ⟨hsubset, hrest⟩ := hfailed rest rfl
    refine ⟨hex', fun failed hok => ?_⟩
    cases hok
    cases added with
    | true =>
      refine ⟨fun d hd => List.mem_cons_of_mem _ (hsubset hd), fun d hd hnot => ?_⟩
      rcases List.mem_cons.1 hd with rfl | hd
      · exact (hheld rfl).mono h'.table.le.subset
      · exact hrest d hd hnot
    | false =>
      refine ⟨List.cons_subset_cons c hsubset, fun d hd hnot => ?_⟩
      rcases List.mem_cons.1 hd with rfl | hd
      · exact absurd List.mem_cons_self hnot
      · exact hrest d hd fun hmem => hnot (List.mem_cons_of_mem _ hmem)
  unknown _ _ _ _ _ h := nomatch h

end AddsAll

/-- What the attempt at one column leaves is what the next one finds. -/
theorem does_addColumns (hr : r.IsSound o createRest addRest)
    (hexact : exact → quiet ∧ createRest = [] ∧ addRest = []) {cs : List Column}
    (hcs : cs ⊆ r.required) : Shared quiet (r.addColumns o cs) (AddsAll quiet exact o r cs) := by
  induction cs with
  | nil =>
    refine (Does.pure _).mono ?_
    rintro w answer w' ⟨rfl, rfl⟩
    exact .nil
  | cons c cs ih =>
    have hrest : ∀ added : Bool, Shared quiet
        (do let rest ← r.addColumns o cs; return if added then rest else c :: rest)
        fun w answer w' =>
          (∃ e, answer = .error e ∧ AddsAll quiet exact o r cs w (.error e) w') ∨
          ∃ rest, answer = .ok (if added then rest else c :: rest) ∧
            AddsAll quiet exact o r cs w (.ok rest) w' := by
      intro added
      refine (ih fun d hd => hcs (List.mem_cons_of_mem _ hd)).bind (fun rest => Does.pure _) ?_ ?_
      · exact fun w e w' h => .inl ⟨e, rfl, h⟩
      · rintro w rest w₁ answer w' h ⟨rfl, rfl⟩
        exact .inr ⟨rest, rfl, h⟩
    refine (does_tryAddColumn hr (hcs List.mem_cons_self) hexact).bind hrest ?_ ?_
    · exact fun w e w' h => .of_tries h
    · rintro w added w₁ answer w' h (⟨e, rfl, h'⟩ | ⟨rest, rfl, h'⟩)
      · exact .error_cons h h'
      · exact .ok_cons h h'

/-! ## The table exists -/

/-- What adding what an existing table lacks may do. -/
structure Fills (quiet exact : Prop) (o : Options) (r : Request) (g : Gap)
    (w : Workspace SharedStore) (answer : Except SchemaError (List Column))
    (w' : Workspace SharedStore) : Prop where
  table : Extends quiet exact g.addable (r.place o) w.store w'.store
  definition : w.definition.Exact o exact (w.store.columnsAt (r.place o)) →
    w'.definition.Tracks o exact (w'.store.columnsAt (r.place o)) ∧
      ∀ missing, answer = .ok missing → g.missing ⊆ missing ∧ missing ⊆ g.missing ++ g.addable ∧
        ∀ c ∈ g.addable, c ∉ missing → Held o (w'.store.columnsAt (r.place o)) c
  unknown : quiet → w.store.IsReached o → Fresh g.addable (w.store.columnsAt (r.place o)) →
    w.definition.Exact o exact (w.store.columnsAt (r.place o)) →
    ∀ e, answer = .error e → ∃ c ∈ g.addable, w'.definition.find? c.name = none

/-- The last step of adding columns: if any failed, what is known of the table is forgotten. -/
def finish {σ : Type} (g : Gap) (failed : List Column) : Reconciliation σ (List Column) := do
  if !failed.isEmpty then setDefinition fun _ => .unknown
  return Column.sort (g.missing ++ failed)

theorem does_finish (g : Gap) (failed : List Column) :
    Shared quiet (finish g failed) fun w answer w' =>
      answer = .ok (Column.sort (g.missing ++ failed)) ∧ w'.store = w.store ∧
        (w'.definition = w.definition ∧ failed = [] ∨ w'.definition = .unknown) := by
  unfold finish
  dsimp only
  split
  · refine (does_setDefinition _).bind (fun _ => Does.pure _) ?_ ?_
    · rintro w e w' ⟨he, _⟩
      cases he
    · rintro w _ w₁ answer w' ⟨_, rfl⟩ ⟨rfl, rfl⟩
      exact ⟨rfl, rfl, .inr rfl⟩
  next hempty =>
    refine (Does.pure _).mono ?_
    rintro w answer w' ⟨rfl, rfl⟩
    exact ⟨rfl, rfl, .inl ⟨rfl, by simpa using hempty⟩⟩

/-- An extension adds what it can. It reports the rest together with what could not be added. -/
theorem does_extend (hr : r.IsSound o createRest addRest)
    (hexact : exact → quiet ∧ createRest = [] ∧ addRest = []) {g : Gap}
    (hg : g.addable ⊆ r.required) : Shared quiet (r.extend o g) (Fills quiet exact o r g) := by
  obtain ⟨first, hfirst, _⟩ := hr.add
  unfold extend
  rw [hfirst]
  split
  next hempty =>
    refine (Does.pure _).mono ?_
    rintro w answer w' ⟨rfl, rfl⟩
    refine ⟨.refl _, fun h => ⟨h.tracks, fun missing hok => ?_⟩, fun _ _ _ _ _ h => nomatch h⟩
    cases hok
    rw [List.isEmpty_iff.1 hempty]
    exact ⟨fun c hc => Column.mem_sort.2 hc, fun c hc => by simpa using hc, fun _ h => nomatch h⟩
  next =>
    refine (does_addColumns hr hexact hg).bind (does_finish g) ?_ ?_
    · rintro w e w' ⟨htable, hdefinition, hunknown⟩
      exact ⟨htable, fun h => ⟨(hdefinition h).1.tracks, fun _ h => nomatch h⟩, hunknown⟩
    · rintro w failed w₁ answer w' ⟨htable, hdefinition, _⟩ ⟨rfl, hstore, hknown⟩
      refine ⟨hstore ▸ htable, fun h => ?_, fun _ _ _ _ _ h => nomatch h⟩
      obtain ⟨hexact', hfailed⟩ := hdefinition h
      obtain ⟨hsubset, hheld⟩ := hfailed failed rfl
      rw [hstore]
      refine ⟨?_, fun missing hok => ?_⟩
      · rcases hknown with ⟨hdefinition', _⟩ | hdefinition'
        · rw [hdefinition']
          exact hexact'.tracks
        · rw [hdefinition']
          exact Definition.tracks_unknown
      · cases hok
        refine ⟨fun c hc => by simp [hc], fun c hc => ?_, fun c hc hnot => ?_⟩
        · rw [Column.mem_sort, List.mem_append] at hc
          exact List.mem_append.2 (hc.imp_right fun h => hsubset h)
        · refine hheld c hc fun hmem => hnot ?_
          simp [hmem]

end Request

end MetricTables
