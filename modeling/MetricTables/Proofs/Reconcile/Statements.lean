import MetricTables.Proofs.Definition
import MetricTables.Proofs.Runs

/-!
# Statements for columns

What the single steps of reconciliation do beside other users: asking for columns, running
the statements for some columns and marking the tags among them. Columns that are added
stand behind what the table had when the first statement ran, and nobody else comes
between them and their marks.

## Main definitions

* `Template.Adds` — the statement adds the columns if it takes effect.
* `Template.IsHarmless` — the statement takes effect and leaves the table alone.

## Main statements

* `does_refresh`, `does_marks`, `does_carryOut` — what the steps do.
-/

namespace MetricTables

/-! ## Marks -/

section Marks

variable {old own more : List StoredColumn} {n : String} {t : Catalog} {p : TablePlace}

/-- The columns with a mark on those of the names. -/
def markNames (ns : List String) (own : List StoredColumn) : List StoredColumn :=
  own.map fun s => if s.name ∈ ns then s.asTag else s

@[simp] theorem StoredColumn.asTag_name (s : StoredColumn) : s.asTag.name = s.name := rfl

@[simp] theorem map_name_markNames (ns : List String) (own : List StoredColumn) :
    (markNames ns own).map StoredColumn.name = own.map StoredColumn.name := by
  rw [markNames, List.map_map]
  refine List.map_congr_left fun s _ => ?_
  simp only [Function.comp]
  split <;> rfl

@[simp] theorem markNames_nil (own : List StoredColumn) : markNames [] own = own := by
  simp [markNames]

theorem markNames_cons (n : String) (ns : List String) (own : List StoredColumn) :
    markNames ns (markNames [n] own) = markNames (n :: ns) own := by
  simp only [markNames, List.map_map]
  refine List.map_congr_left fun s _ => ?_
  simp only [Function.comp, List.mem_cons]
  by_cases h : s.name = n
  · by_cases h' : n ∈ ns <;> simp [h, h', StoredColumn.asTag]
  · simp [h]

/-- The tags among new columns of different names are marked by name. -/
theorem markNames_tags {cs : List Column} (h : (cs.map Column.name).Nodup) :
    markNames ((cs.filter fun c => c.role == .tag).map Column.name) (cs.map Column.stored) =
      cs.map Column.marked := by
  rw [markNames, List.map_map]
  refine List.map_congr_left fun c hc => ?_
  have hmem : c.name ∈ (cs.filter fun c => c.role == .tag).map Column.name ↔ c.role = .tag := by
    constructor
    · intro hn
      obtain ⟨d, hd, hname⟩ := List.mem_map.1 hn
      obtain ⟨hd, hrole⟩ := List.mem_filter.1 hd
      obtain rfl := List.inj_on_of_nodup_map h hd hc hname
      simpa using hrole
    · intro hrole
      exact List.mem_map.2 ⟨c, List.mem_filter.2 ⟨hc, by simp [hrole]⟩, rfl⟩
  simp only [Function.comp, Column.stored_name, Column.marked, hmem]

theorem findIdx?_first {s : StoredColumn} (pre post : List StoredColumn) (hs : s.name = n)
    (hpre : n ∉ pre.map StoredColumn.name) (f : StoredColumn → StoredColumn) :
    (pre ++ s :: post).findIdx? (fun c => c.name == n) = some pre.length ∧
      (pre ++ s :: post).modify pre.length f = pre ++ f s :: post := by
  induction pre with
  | nil => simp [List.findIdx?_cons, hs]
  | cons c cs ih =>
    simp only [List.map_cons, List.mem_cons, not_or] at hpre
    obtain ⟨hfind, hmodify⟩ := ih hpre.2
    simp [List.findIdx?_cons, Ne.symm hpre.1, hfind, hmodify]

/-- A comment goes to the column that is meant, if no column before it has its name. -/
theorem Catalog.comment_tag (ht : t.columnsAt p = old ++ own ++ more)
    (hown : (own.map StoredColumn.name).Nodup) (hn : n ∈ own.map StoredColumn.name)
    (hold : n ∉ old.map StoredColumn.name) :
    t.comment p n tagComment = .ok (t.insert p (old ++ markNames [n] own ++ more)) := by
  obtain ⟨s, hs, rfl⟩ := List.mem_map.1 hn
  obtain ⟨before, after, rfl⟩ := List.append_of_mem hs
  have hfind : t.find? p = some (old ++ (before ++ s :: after) ++ more) := by
    cases hf : t.find? p with
    | none => simp [columnsAt, hf] at ht
    | some columns => rw [← columnsAt_of_find? hf, ht]
  simp only [List.map_append, List.map_cons, List.nodup_append, List.nodup_cons] at hown
  have hbefore : s.name ∉ before.map StoredColumn.name :=
    fun h => hown.2.2 _ h _ List.mem_cons_self rfl
  have hafter : s.name ∉ after.map StoredColumn.name := hown.2.1.1
  have hmark : ∀ l : List StoredColumn, s.name ∉ l.map StoredColumn.name →
      markNames [s.name] l = l := by
    intro l hl
    refine (List.map_congr_left fun c hc => ?_).trans (List.map_id l)
    have hne : c.name ≠ s.name := fun h => hl (List.mem_map.2 ⟨c, hc, h⟩)
    simp [hne]
  obtain ⟨hidx, hmodify⟩ := findIdx?_first (s := s) (old ++ before) (after ++ more) rfl
    (by simp only [List.map_append, List.mem_append, not_or]; exact ⟨hold, hbefore⟩)
    StoredColumn.asTag
  have hlist : old ++ (before ++ s :: after) ++ more = old ++ before ++ s :: (after ++ more) := by
    simp
  have hmarked : old ++ markNames [s.name] (before ++ s :: after) ++ more =
      old ++ before ++ s.asTag :: (after ++ more) := by
    have hsplit : markNames [s.name] (before ++ s :: after) =
        markNames [s.name] before ++ s.asTag :: markNames [s.name] after := by simp [markNames]
    simp [hsplit, hmark before hbefore, hmark after hafter]
  rw [hmarked, ← hmodify, comment, hfind]
  simp only [hlist, hidx]
  rfl

end Marks

/-! ## Templates -/

namespace Template

/-- The place of the table that a context is about has the columns. -/
def Context.Stands (c : Context) (t : Catalog) : Prop :=
  ∀ col ∈ c.columns, col.stored ∈ t.columnsAt c.place

/-- The statement, if it takes effect, adds the columns behind what the table has. -/
def Adds (template : Template) (c : Context) : Prop :=
  ∀ (sql : String) (t t' : Catalog), template.render c = .ok sql → t.run sql = .ok t' →
    (∀ col ∈ c.columns, col.name ∉ (t.columnsAt c.place).map StoredColumn.name) ∧
      t' = t.insert c.place (t.columnsAt c.place ++ c.columns.map Column.stored)

/-- Where the table has the columns the statement takes effect, and leaves the columns of
the table alone. -/
def IsHarmless (template : Template) (c : Context) : Prop :=
  ∀ t : Catalog, c.Stands t → ∃ sql t', template.render c = .ok sql ∧ t.run sql = .ok t' ∧
    t'.columnsAt c.place = t.columnsAt c.place

theorem Context.Stands.mono {c : Context} {t t' : Catalog} (h : c.Stands t)
    (hle : t.columnsAt c.place <+: t'.columnsAt c.place) : c.Stands t' :=
  fun col hcol => hle.subset (h col hcol)

end Template

/-! ## Single steps -/

namespace SharedStore

def columnsAt (s : SharedStore) (p : TablePlace) : List StoredColumn := s.tables.columnsAt p

/-- Whether calls of the store are answered. -/
def IsReached (o : Options) (s : SharedStore) : Prop :=
  s.memory.isOffline = false ∧ ¬ o.statementTimeout < s.memory.latency

variable {quiet : Prop} {s s' : SharedStore} {o : Options}

theorem isReached_of_reach_eq (h : s'.reach = s.reach) (hs : s.IsReached o) : s'.IsReached o := by
  have honline : s'.memory.isOffline = s.memory.isOffline := congrArg Prod.fst h
  have hlatency : s'.memory.latency = s.memory.latency := congrArg Prod.snd h
  rw [IsReached, honline, hlatency]
  exact hs

theorem Drifts.columnsAt_prefix (h : Drifts quiet s s') (p : TablePlace) :
    s.columnsAt p <+: s'.columnsAt p := h.widens p

theorem Drifts.columnsAt_eq (h : Drifts quiet s s') (hq : quiet) (p : TablePlace) :
    s'.columnsAt p = s.columnsAt p := by
  rw [columnsAt, h.tables_eq hq, columnsAt]

/-- What others add to a table stands behind its columns. -/
theorem Drifts.columnsAt_append (h : Drifts quiet s s') (p : TablePlace) :
    ∃ new, s'.columnsAt p = s.columnsAt p ++ new ∧ (quiet → new = []) := by
  obtain ⟨new, hnew⟩ := h.columnsAt_prefix p
  refine ⟨new, hnew.symm, fun hq => ?_⟩
  have heq := h.columnsAt_eq hq p
  rw [← hnew] at heq
  simpa using heq

end SharedStore

namespace Request

open Reconciliation SharedStore

variable {quiet : Prop} (o : Options) (r : Request)

def place : TablePlace := (o.namespaceName, r.table)

/-- Asking for the columns makes the definition exact, or leaves it. -/
theorem does_refresh : Shared quiet (r.refresh o) fun w answer w' =>
    Drifts quiet w.store w'.store ∧
      (answer = .ok ⟨⟩ → w'.definition = .ofColumns o (w'.store.columnsAt (r.place o))) ∧
      (∀ e, answer = .error e → w'.definition = w.definition) ∧
      (quiet → w.store.IsReached o → answer = .ok ⟨⟩) := by
  have hcall := does_bounded quiet o.statementTimeout (Store.columns o.namespaceName r.table)
    (Q := fun s answer s' => Drifts quiet s s' ∧
      (∀ found, answer = .ok found → found.getD [] = s'.columnsAt (r.place o)) ∧
      (quiet → s.memory.isOffline = false → ∃ found, answer = .ok found))
    (fun s => later_columns (r.place o) s) fun s hl => by
      obtain ⟨hdrift, hfound⟩ := columns_drifts (r.place o) s hl
      refine ⟨hdrift, hfound, fun hq honline => columns_of_online (r.place o) s ?_⟩
      rw [← honline]
      exact congrArg Prod.fst (hdrift.reach_eq hq)
  refine hcall.bind (fun stored => does_setDefinition _) ?_ ?_
  · rintro w e w' ⟨hdefinition, ⟨htime, hstore, he⟩ | ⟨htime, answer, ⟨hdrift, hfound, hok⟩, he⟩⟩
    · refine ⟨hstore ▸ .refl _, fun h => (nomatch h), fun _ _ => hdefinition, fun _ hr => ?_⟩
      exact absurd htime hr.2
    · refine ⟨hdrift, fun h => (nomatch h), fun _ _ => hdefinition, fun hq hr => ?_⟩
      obtain ⟨found, rfl⟩ := hok hq hr.1
      cases he
  · rintro w stored w₁ answer' w' ⟨hdefinition, ⟨_, _, he⟩ | ⟨_, answer, ⟨hdrift, hfound, _⟩, he⟩⟩
      ⟨rfl, rfl⟩
    · cases he
    · cases answer with
      | error e => cases he
      | ok found =>
        cases he
        refine ⟨hdrift, fun _ => ?_, fun _ h => (nomatch h), fun _ _ => rfl⟩
        exact congrArg (Definition.ofColumns o) (hfound _ rfl)

/-- A statement fails and changes nothing, or it changes the tables as they were when it
ran. -/
theorem does_runTemplate (c : Template.Context) (template : Template) :
    Shared quiet (runTemplate o c template) fun w answer w' =>
      w'.definition = w.definition ∧
      (∀ e, answer = .error e → Drifts quiet w.store w'.store) ∧
      (answer = .ok ⟨⟩ → ∃ sql s₁, template.render c = .ok sql ∧ Drifts quiet w.store s₁ ∧
        s₁.tables.run sql = .ok w'.store.tables ∧ w'.store.reach = s₁.reach ∧
        (quiet → w'.store.IsReached o)) := by
  unfold runTemplate
  cases hrender : template.render c with
  | error fault =>
    refine (Does.throw _).mono ?_
    rintro w answer w' ⟨rfl, rfl⟩
    exact ⟨rfl, fun _ _ => .refl _, fun h => nomatch h⟩
  | ok sql =>
    refine (does_bounded quiet o.statementTimeout _ (fun s => later_execute s sql)
      fun s hl => execute_changes s sql hl).mono ?_
    rintro w answer' w' ⟨hdefinition, ⟨htime, hstore, rfl⟩ | ⟨htime, answer, hchanges, rfl⟩⟩
    · exact ⟨hdefinition, fun _ _ => hstore ▸ .refl _, fun h => nomatch h⟩
    · refine ⟨hdefinition, fun e he => ?_, fun hok => ?_⟩
      · cases answer with
        | error e => exact hchanges.rejected e rfl
        | ok _ => cases he
      · cases answer with
        | error e => cases hok
        | ok _ =>
          obtain ⟨s₁, hdrift, hrun, hreach, honline⟩ := hchanges.accepted rfl
          refine ⟨sql, s₁, rfl, hdrift, hrun, hreach, fun hq => ⟨honline, ?_⟩⟩
          have hlatency : w'.store.memory.latency = w.store.memory.latency :=
            congrArg Prod.snd (hreach.trans (hdrift.reach_eq hq))
          rw [hlatency]
          exact htime

/-- A comment that marks a tag among new columns. -/
theorem does_markTag {c : Column} :
    Shared quiet (bounded o.statementTimeout
        (Store.comment o.namespaceName r.table c.name tagComment)) fun w answer w' =>
      w'.definition = w.definition ∧ (quiet → w'.store.reach = w.store.reach) ∧
      ∀ old own more, w.store.columnsAt (r.place o) = old ++ own ++ more →
        (own.map StoredColumn.name).Nodup → c.name ∈ own.map StoredColumn.name →
        c.name ∉ old.map StoredColumn.name →
        ∃ more', more <+: more' ∧ (quiet → more' = more) ∧
          (answer = .ok () →
            w'.store.columnsAt (r.place o) = old ++ markNames [c.name] own ++ more') ∧
          (∀ e, answer = .error e → w'.store.columnsAt (r.place o) = old ++ own ++ more') ∧
          (quiet → w.store.IsReached o → answer = .ok ()) := by
  have hcall := does_bounded quiet o.statementTimeout
    (Store.comment o.namespaceName r.table c.name tagComment)
    (Q := fun s answer s' =>
      Changes quiet (fun t => t.comment (r.place o) c.name tagComment) s answer s' ∧
      ∀ t, quiet → s.memory.isOffline = false →
        s.tables.comment (r.place o) c.name tagComment = .ok t → answer = .ok ())
    (fun s => later_comment (r.place o) s c.name tagComment)
    fun s hl => ⟨comment_changes (r.place o) s c.name tagComment hl,
      fun t hq honline ht => comment_of_online (r.place o) s hl hq honline ht⟩
  refine hcall.mono ?_
  rintro w answer' w'
    ⟨hdefinition, ⟨htime, hstore, rfl⟩ | ⟨htime, answer, ⟨hchanges, hanswers⟩, rfl⟩⟩
  · refine ⟨hdefinition, fun _ => hstore ▸ rfl, fun old own more hcolumns _ _ _ => ?_⟩
    refine ⟨more, List.prefix_rfl, fun _ => rfl, fun h => (nomatch h), fun _ _ => hstore ▸ hcolumns,
      fun _ hr => absurd htime hr.2⟩
  · cases answer with
    | error e =>
      have hdrift := hchanges.rejected e rfl
      refine ⟨hdefinition, hdrift.reach_eq, fun old own more hcolumns hown hname hold => ?_⟩
      obtain ⟨extra, hextra, hquiet⟩ := hdrift.columnsAt_append (r.place o)
      refine ⟨more ++ extra, List.prefix_append _ _, fun hq => ?_, fun h => (nomatch h),
        fun _ _ => ?_, fun hq hr => ?_⟩
      · rw [hquiet hq, List.append_nil]
      · rw [hextra, hcolumns, List.append_assoc]
      · cases hanswers _ hq hr.1 (Catalog.comment_tag hcolumns hown hname hold)
    | ok _ =>
      obtain ⟨s₁, hdrift, hcomment, hreach, _⟩ := hchanges.accepted rfl
      refine ⟨hdefinition, fun hq => hreach.trans (hdrift.reach_eq hq),
        fun old own more hcolumns hown hname hold => ?_⟩
      obtain ⟨extra, hextra, hquiet⟩ := hdrift.columnsAt_append (r.place o)
      rw [hcolumns, List.append_assoc] at hextra
      have htables := Catalog.comment_tag hextra hown hname hold
      rw [htables, Except.ok.injEq] at hcomment
      refine ⟨more ++ extra, List.prefix_append _ _, fun hq => ?_, fun _ => ?_,
        fun _ h => (nomatch h), fun _ _ => rfl⟩
      · rw [hquiet hq, List.append_nil]
      · rw [columnsAt, ← hcomment, Catalog.columnsAt_insert_self]

/-- The comments that mark tags among new columns. -/
theorem does_marks (tags : List Column) :
    Shared quiet (tags.forM fun c => bounded o.statementTimeout
        (Store.comment o.namespaceName r.table c.name tagComment)) fun w answer w' =>
      w'.definition = w.definition ∧ (quiet → w'.store.reach = w.store.reach) ∧
      ∀ old own more, w.store.columnsAt (r.place o) = old ++ own ++ more →
        (own.map StoredColumn.name).Nodup →
        (∀ c ∈ tags, c.name ∈ own.map StoredColumn.name ∧ c.name ∉ old.map StoredColumn.name) →
        ∃ own' more', w'.store.columnsAt (r.place o) = old ++ own' ++ more' ∧
          (quiet → more' = more) ∧
          (answer = .ok ⟨⟩ → own' = markNames (tags.map Column.name) own) ∧
          (quiet → w.store.IsReached o → answer = .ok ⟨⟩) := by
  induction tags with
  | nil =>
    refine (Does.pure _).mono ?_
    rintro w answer w' ⟨rfl, rfl⟩
    refine ⟨rfl, fun _ => rfl, fun old own more hcolumns _ _ => ?_⟩
    exact ⟨own, more, hcolumns, fun _ => rfl, fun _ => (markNames_nil own).symm, fun _ _ => rfl⟩
  | cons c cs ih =>
    refine (does_markTag o r (c := c)).bind (fun _ => ih) ?_ ?_
    · rintro w e w' ⟨hdefinition, hreach, hmark⟩
      refine ⟨hdefinition, hreach, fun old own more hcolumns hown hnames => ?_⟩
      obtain ⟨hname, hold⟩ := hnames c List.mem_cons_self
      obtain ⟨more', _, hquiet, _, herror, hreached⟩ := hmark old own more hcolumns hown hname hold
      exact ⟨own, more', herror e rfl, hquiet, fun h => (nomatch h),
        fun hq hr => nomatch hreached hq hr⟩
    · rintro w _ w₁ answer w' ⟨hdefinition, hreach, hmark⟩ ⟨hdefinition', hreach', hmarks⟩
      refine ⟨hdefinition'.trans hdefinition, fun hq => (hreach' hq).trans (hreach hq),
        fun old own more hcolumns hown hnames => ?_⟩
      obtain ⟨hname, hold⟩ := hnames c List.mem_cons_self
      obtain ⟨more₁, _, hquiet, hok, _, _⟩ := hmark old own more hcolumns hown hname hold
      obtain ⟨own', more', hcolumns', hquiet', hok', hreached'⟩ :=
        hmarks old (markNames [c.name] own) more₁ (hok rfl) (by simpa using hown)
          fun d hd => by simpa using hnames d (List.mem_cons_of_mem _ hd)
      refine ⟨own', more', hcolumns', fun hq => (hquiet' hq).trans (hquiet hq), fun h => ?_,
        fun hq hr => hreached' hq (isReached_of_reach_eq (hreach hq) hr)⟩
      rw [hok' h, markNames_cons, List.map_cons]

/-- Statements behind the first leave the table alone. -/
theorem does_harmless {c : Template.Context} (hplace : c.place = r.place o)
    {templates : List Template} (h : ∀ template ∈ templates, template.IsHarmless c) :
    Shared quiet (templates.forM (runTemplate o c)) fun w _ w' =>
      c.Stands w.store.tables →
        w'.definition = w.definition ∧ c.Stands w'.store.tables ∧
        w.store.columnsAt (r.place o) <+: w'.store.columnsAt (r.place o) ∧
        (quiet → w'.store.columnsAt (r.place o) = w.store.columnsAt (r.place o) ∧
          w'.store.reach = w.store.reach) := by
  refine Does.forM (fun w hs => ⟨rfl, hs, List.prefix_rfl, fun _ => ⟨rfl, rfl⟩⟩) ?_ ?_
  · intro w w₁ w' h₁ h₂ hs
    obtain ⟨hdefinition, hs₁, hle, heq⟩ := h₁ hs
    obtain ⟨hdefinition', hs', hle', heq'⟩ := h₂ hs₁
    exact ⟨hdefinition'.trans hdefinition, hs', hle.trans hle',
      fun hq => ⟨(heq' hq).1.trans (heq hq).1, (heq' hq).2.trans (heq hq).2⟩⟩
  · intro template htemplate
    refine (does_runTemplate o c template).mono ?_
    rintro w answer w' ⟨hdefinition, herror, hok⟩ hs
    cases answer with
    | error e =>
      have hdrift := herror e rfl
      refine ⟨hdefinition, ?_, hdrift.columnsAt_prefix _, fun hq => ?_⟩
      · exact hs.mono (hdrift.columnsAt_prefix _)
      · exact ⟨hdrift.columnsAt_eq hq _, hdrift.reach_eq hq⟩
    | ok _ =>
      obtain ⟨sql, s₁, hrender, hdrift, hrun, hreach, _⟩ := hok rfl
      have hs₁ : c.Stands s₁.tables := hs.mono (hdrift.columnsAt_prefix _)
      obtain ⟨sql', t', hrender', hrun', hcolumns⟩ := h template htemplate s₁.tables hs₁
      cases hrender.symm.trans hrender'
      cases hrun.symm.trans hrun'
      have hcolumnsAt : w'.store.columnsAt (r.place o) = s₁.columnsAt (r.place o) :=
        hplace ▸ hcolumns
      refine ⟨hdefinition, hs₁.mono (hcolumns ▸ List.prefix_rfl), ?_, fun hq => ?_⟩
      · rw [hcolumnsAt]
        exact hdrift.columnsAt_prefix _
      · exact ⟨hcolumnsAt.trans (hdrift.columnsAt_eq hq _), hreach.trans (hdrift.reach_eq hq)⟩

/-! ## All statements for some columns -/

/-- What carrying out the statements for some columns may do to a table: if it succeeds the
columns stand marked behind what the table had, and otherwise, if others are quiet, either
nothing happened or a statement behind the first failed. -/
structure CarriesOut (quiet : Prop) (cs : List Column) (single : Prop)
    (cols : List StoredColumn) (succeeded : Prop) (cols' : List StoredColumn) : Prop where
  grows : cols <+: cols'
  done : succeeded → ∃ old more, cols <+: old ∧
    (∀ c ∈ cs, c.name ∉ old.map StoredColumn.name) ∧
    cols' = old ++ cs.map Column.marked ++ more ∧ (quiet → old = cols ∧ more = [])
  failed : ¬ succeeded → quiet → cols' = cols ∨
    ¬ single ∧ (∀ c ∈ cs, c.name ∉ cols.map StoredColumn.name) ∧
      cols' = cols ++ cs.map Column.stored

section CarryOut

variable {cs allColumns : List Column} {first : Template} {rest : List Template}

/-- The first statement adds the columns, if it takes effect. -/
theorem does_first (hfirst : first.Adds (r.context o cs allColumns)) :
    Shared quiet (runTemplate o (r.context o cs allColumns) first) fun w answer w' =>
      w'.definition = w.definition ∧
      (∀ e, answer = .error e → Drifts quiet w.store w'.store) ∧
      (answer = .ok ⟨⟩ → ∃ old, w.store.columnsAt (r.place o) <+: old ∧
        (∀ c ∈ cs, c.name ∉ old.map StoredColumn.name) ∧
        w'.store.columnsAt (r.place o) = old ++ cs.map Column.stored ∧
        (quiet → old = w.store.columnsAt (r.place o) ∧ w'.store.reach = w.store.reach ∧
          w'.store.IsReached o)) := by
  refine (does_runTemplate o _ first).mono ?_
  rintro w answer w' ⟨hdefinition, herror, hok⟩
  refine ⟨hdefinition, herror, fun h => ?_⟩
  obtain ⟨sql, s₁, hrender, hdrift, hrun, hreach, hreached⟩ := hok h
  obtain ⟨hfresh, htables⟩ := hfirst sql _ _ hrender hrun
  refine ⟨s₁.columnsAt (r.place o), hdrift.columnsAt_prefix _, hfresh, ?_, fun hq => ?_⟩
  · rw [columnsAt, htables]
    exact Catalog.columnsAt_insert_self ..
  · exact ⟨hdrift.columnsAt_eq hq _, hreach.trans (hdrift.reach_eq hq), hreached hq⟩

/-- The first statement has the effect that is wanted, and the others change nothing of it. -/
theorem does_statements (hfirst : first.Adds (r.context o cs allColumns))
    (hrest : ∀ template ∈ rest, template.IsHarmless (r.context o cs allColumns)) :
    Shared quiet ((first :: rest).forM (runTemplate o (r.context o cs allColumns)))
      fun w answer w' =>
        w'.definition = w.definition ∧ (quiet → w'.store.reach = w.store.reach) ∧
        (answer = .ok ⟨⟩ → ∃ old more, w.store.columnsAt (r.place o) <+: old ∧
          (∀ c ∈ cs, c.name ∉ old.map StoredColumn.name) ∧
          w'.store.columnsAt (r.place o) = old ++ cs.map Column.stored ++ more ∧
          (quiet → old = w.store.columnsAt (r.place o) ∧ more = [] ∧ w'.store.IsReached o)) ∧
        (∀ e, answer = .error e →
          w.store.columnsAt (r.place o) <+: w'.store.columnsAt (r.place o) ∧
          (quiet → w'.store.columnsAt (r.place o) = w.store.columnsAt (r.place o) ∨
            ¬ rest = [] ∧
            (∀ c ∈ cs, c.name ∉ (w.store.columnsAt (r.place o)).map StoredColumn.name) ∧
              w'.store.columnsAt (r.place o) =
                w.store.columnsAt (r.place o) ++ cs.map Column.stored)) := by
  have hharmless := @does_harmless quiet o r (r.context o cs allColumns) rfl rest hrest
  have hsingle : Shared quiet (rest.forM (runTemplate o (r.context o cs allColumns)))
      fun _ answer _ => rest = [] → answer = .ok ⟨⟩ := by
    cases rest with
    | nil => exact (Does.pure _).mono fun _ _ _ h _ => h.1
    | cons t ts => exact hharmless.mono fun _ _ _ _ h => nomatch h
  refine (does_first o r hfirst).bind (fun _ => hsingle.and hharmless) ?_ ?_
  · rintro w e w' ⟨hdefinition, herror, _⟩
    have hdrift := herror e rfl
    exact ⟨hdefinition, hdrift.reach_eq, fun h => (nomatch h), fun _ _ =>
      ⟨hdrift.columnsAt_prefix _, fun hq => .inl (hdrift.columnsAt_eq hq _)⟩⟩
  · rintro w _ w₁ answer w' ⟨hdefinition, _, hok⟩ ⟨hsingle, hstands⟩
    obtain ⟨old, hle, hfresh, hcolumns, hquiet⟩ := hok rfl
    obtain ⟨hdefinition', _, ⟨more, hmore⟩, hquiet'⟩ := hstands fun c hc => by
      show c.stored ∈ w₁.store.columnsAt (r.place o)
      rw [hcolumns]
      exact List.mem_append_right _ (List.mem_map.2 ⟨c, hc, rfl⟩)
    refine ⟨hdefinition'.trans hdefinition,
      fun hq => (hquiet' hq).2.trans (hquiet hq).2.1, fun _ => ?_, fun e he => ⟨?_, fun hq => ?_⟩⟩
    · refine ⟨old, more, hle, hfresh, by rw [← hmore, hcolumns], fun hq => ?_⟩
      have heq := (hquiet' hq).1
      rw [← hmore] at heq
      exact ⟨(hquiet hq).1, by simpa using heq,
        isReached_of_reach_eq (hquiet' hq).2 (hquiet hq).2.2⟩
    · rw [← hmore, hcolumns, List.append_assoc]
      exact hle.trans (List.prefix_append _ _)
    · refine .inr ⟨fun h => ?_, (hquiet hq).1 ▸ hfresh, ?_⟩
      · cases he.symm.trans (hsingle h)
      · rw [(hquiet' hq).1, hcolumns, (hquiet hq).1]

/-- What carrying out the statements for some columns does. -/
theorem does_carryOut (hnames : (cs.map Column.name).Nodup)
    (hfirst : first.Adds (r.context o cs allColumns))
    (hrest : ∀ template ∈ rest, template.IsHarmless (r.context o cs allColumns)) :
    Shared quiet (r.carryOut o (first :: rest) cs allColumns) fun w answer w' =>
      w'.definition = w.definition ∧ (quiet → w'.store.reach = w.store.reach) ∧
      CarriesOut quiet cs (rest = []) (w.store.columnsAt (r.place o)) (answer = .ok ⟨⟩)
        (w'.store.columnsAt (r.place o)) := by
  refine (does_statements o r hfirst hrest).bind (fun _ => does_marks o r _) ?_ ?_
  · rintro w e w' ⟨hdefinition, hreach, _, herror⟩
    obtain ⟨hle, hquiet⟩ := herror e rfl
    exact ⟨hdefinition, hreach, hle, fun h => (nomatch h), fun _ hq => hquiet hq⟩
  · rintro w _ w₁ answer w' ⟨hdefinition, hreach, hok, _⟩ ⟨hdefinition', hreach', hmarks⟩
    obtain ⟨old, more, hle, hfresh, hcolumns, hquiet⟩ := hok rfl
    have hstored : (cs.map Column.stored).map StoredColumn.name = cs.map Column.name := by simp
    obtain ⟨own', more', hcolumns', hquiet', hok', hreached⟩ := hmarks old _ more hcolumns
      (by rw [hstored]; exact hnames) fun c hc => by
        have hc := (List.mem_filter.1 hc).1
        refine ⟨?_, hfresh c hc⟩
        rw [hstored]
        exact List.mem_map.2 ⟨c, hc, rfl⟩
    refine ⟨hdefinition'.trans hdefinition, fun hq => (hreach' hq).trans (hreach hq), ?_,
      fun h => ?_, fun h hq => ?_⟩
    · rw [hcolumns', List.append_assoc]
      exact hle.trans (List.prefix_append _ _)
    · refine ⟨old, more', hle, hfresh, ?_, fun hq => ?_⟩
      · rw [hcolumns', hok' h, markNames_tags hnames]
      · exact ⟨(hquiet hq).1, (hquiet' hq).trans (hquiet hq).2.1⟩
    · exact absurd (hreached hq (hquiet hq).2.2) h

end CarryOut

end Request

end MetricTables
