import MetricTables.Proofs.Store.Trace

/-!
# Steps that only widen

What the calls of a request do to the tables, one step at a time, where nobody else writes.
Tables are created with their keys, columns are added behind those that are there, and a tag is
marked right after its column was made. So whatever fails, and wherever it fails, no table
loses anything.

## Main definitions

* `Catalog.GrowsInto` — every table keeps its columns, each at its position.
* `Request.Permits` — what a step may do to the tables.
* `Course` — steps one after the other, each of them permitted.
* `widening` — what a request does to a store, as a course of permitted steps.

## Main statements

* `Permits.growsInto` — what is permitted only widens tables.
* `widens_ensure` — bringing a table in step is a course of permitted steps.
-/

namespace MetricTables

open Reconciliation

/-! ## Tables that keep their columns -/

/-- A column keeps its name and its type, and its comment if it has one. -/
structure StoredColumn.KeptAs (c c' : StoredColumn) : Prop where
  name : c'.name = c.name
  type : c'.type = c.type
  comment : ∀ text, c.comment = some text → c'.comment = some text

def KeepsColumns (columns columns' : List StoredColumn) : Prop :=
  ∀ (i : Nat) (c : StoredColumn), columns[i]? = some c → ∃ c', columns'[i]? = some c' ∧ c.KeptAs c'

/-- Every table keeps its columns, each at its position. -/
def Catalog.GrowsInto (t t' : Catalog) : Prop :=
  ∀ p columns, t.find? p = some columns → ∃ columns', t'.find? p = some columns' ∧
    KeepsColumns columns columns'

theorem StoredColumn.KeptAs.refl (c : StoredColumn) : c.KeptAs c := ⟨rfl, rfl, fun _ h => h⟩

theorem StoredColumn.KeptAs.trans {c c' c'' : StoredColumn} (h : c.KeptAs c')
    (h' : c'.KeptAs c'') : c.KeptAs c'' :=
  ⟨h'.name.trans h.name, h'.type.trans h.type, fun text ht => h'.comment text (h.comment text ht)⟩

namespace KeepsColumns

variable {columns columns' columns'' : List StoredColumn}

theorem refl (columns : List StoredColumn) : KeepsColumns columns columns :=
  fun _ c hc => ⟨c, hc, .refl c⟩

theorem trans (h : KeepsColumns columns columns') (h' : KeepsColumns columns' columns'') :
    KeepsColumns columns columns'' := by
  intro i c hc
  obtain ⟨c', hc', hkept⟩ := h i c hc
  obtain ⟨c'', hc'', hkept'⟩ := h' i c' hc'
  exact ⟨c'', hc'', hkept.trans hkept'⟩

theorem append (columns new : List StoredColumn) : KeepsColumns columns (columns ++ new) := by
  intro i c hc
  obtain ⟨hi, _⟩ := List.getElem?_eq_some_iff.1 hc
  exact ⟨c, by rw [List.getElem?_append_left hi, hc], .refl c⟩

/-- A mark on a column that has no comment changes no other column. -/
theorem mark {before after : List StoredColumn} {s : StoredColumn} (hs : s.comment = none) :
    KeepsColumns (before ++ s :: after) (before ++ s.asTag :: after) := by
  intro i c hc
  by_cases hi : i < before.length
  · rw [List.getElem?_append_left hi] at hc ⊢
    exact ⟨c, hc, .refl c⟩
  · rw [List.getElem?_append_right (by omega)] at hc ⊢
    cases hidx : i - before.length with
    | zero =>
      rw [hidx, List.getElem?_cons_zero] at hc
      obtain rfl := Option.some.inj hc
      exact ⟨_, List.getElem?_cons_zero, rfl, rfl, fun text ht => by rw [hs] at ht; cases ht⟩
    | succ n =>
      rw [hidx, List.getElem?_cons_succ] at hc
      exact ⟨c, by rw [List.getElem?_cons_succ, hc], .refl c⟩

end KeepsColumns

namespace Catalog

variable {t t' t'' : Catalog} {p : TablePlace}

theorem GrowsInto.refl (t : Catalog) : t.GrowsInto t :=
  fun _ columns h => ⟨columns, h, .refl columns⟩

theorem GrowsInto.trans (h : t.GrowsInto t') (h' : t'.GrowsInto t'') : t.GrowsInto t'' := by
  intro p columns hfind
  obtain ⟨columns', hfind', hkeeps⟩ := h p columns hfind
  obtain ⟨columns'', hfind'', hkeeps'⟩ := h' p columns' hfind'
  exact ⟨columns'', hfind'', hkeeps.trans hkeeps'⟩

/-- One table changes, and keeps its columns if it was there. -/
theorem growsInto_insert {columns' : List StoredColumn}
    (h : ∀ columns, t.find? p = some columns → KeepsColumns columns columns') :
    t.GrowsInto (t.insert p columns') := by
  intro q columns hfind
  by_cases hq : q = p
  · subst hq
    exact ⟨columns', KeyMap.find?_insert_self .., h columns hfind⟩
  · exact ⟨columns, (KeyMap.find?_insert_of_ne _ hq _).trans hfind, .refl columns⟩

/-- Names that are taken stay taken. -/
theorem GrowsInto.mem_names (h : t.GrowsInto t') {name : String}
    (hname : name ∈ (t.columnsAt p).map StoredColumn.name) :
    name ∈ (t'.columnsAt p).map StoredColumn.name := by
  obtain ⟨s, hs, rfl⟩ := List.mem_map.1 hname
  cases hfind : t.find? p with
  | none => simp [columnsAt, hfind] at hs
  | some columns =>
    rw [columnsAt_of_find? hfind] at hs
    obtain ⟨columns', hfind', hkeeps⟩ := h p columns hfind
    obtain ⟨i, hi⟩ := List.mem_iff_getElem?.1 hs
    obtain ⟨s', hs', hkept⟩ := hkeeps i s hi
    rw [columnsAt_of_find? hfind']
    exact List.mem_map.2 ⟨s', List.mem_of_getElem? hs', hkept.name⟩

end Catalog

/-! ## What is permitted -/

/-- What a step of a request may do to the tables, in a course that began with the tables
`start`. A mark goes to a column of a tag that the course made, and to no other. -/
inductive Request.Permits (o : Options) (r : Request) (key : Column) (start : Catalog) :
    Catalog → Catalog → Prop
  /-- Nothing changes. -/
  | nothing (t : Catalog) : Permits o r key start t t
  /-- The table is created, with its key. -/
  | create {t : Catalog} {cs : List Column} (hfree : t.find? (r.place o) = none)
      (htable : Identifier.fits o.identifierMaxBytes r.table = true) (hcs : ∀ c ∈ cs, r.Adds o c)
      (hkey : key ∈ cs) :
      Permits o r key start t (t.insert (r.place o) (cs.map Column.stored))
  /-- A column is added to the table. -/
  | add {t : Catalog} {old : List StoredColumn} {c : Column}
      (hfind : t.find? (r.place o) = some old) (hc : r.Adds o c)
      (hnew : c.name ∉ old.map StoredColumn.name) :
      Permits o r key start t (t.insert (r.place o) (old ++ [c.stored]))
  /-- A tag is marked. -/
  | mark {t : Catalog} {before after : List StoredColumn} {c : Column}
      (hfind : t.find? (r.place o) = some (before ++ c.stored :: after)) (hc : c ∈ r.required)
      (hrole : ∀ d ∈ r.required, d.name = c.name → d.role = .tag)
      (hfixed : c.name ≠ o.timeColumn.name ∧ c.name ≠ o.tagIdColumn.name)
      (hnew : c.name ∉ (start.columnsAt (r.place o)).map StoredColumn.name) :
      Permits o r key start t (t.insert (r.place o) (before ++ c.stored.asTag :: after))

namespace Request.Permits

variable {o : Options} {r r' : Request} {key : Column} {start start' t t' : Catalog}

/-- What is permitted only widens tables. -/
theorem growsInto (h : r.Permits o key start t t') : t.GrowsInto t' := by
  cases h with
  | nothing => exact .refl t
  | create hfree =>
    exact Catalog.growsInto_insert fun columns hfind => by rw [hfree] at hfind; cases hfind
  | add hfind =>
    refine Catalog.growsInto_insert fun columns hcolumns => ?_
    obtain rfl := Option.some.inj (hfind.symm.trans hcolumns)
    exact .append _ _
  | mark hfind =>
    refine Catalog.growsInto_insert fun columns hcolumns => ?_
    obtain rfl := Option.some.inj (hfind.symm.trans hcolumns)
    exact .mark rfl

/-- A course may begin earlier. -/
theorem earlier (hstart : start.GrowsInto start') (h : r.Permits o key start' t t') :
    r.Permits o key start t t' := by
  cases h with
  | nothing => exact .nothing t
  | create hfree htable hcs hkey => exact .create hfree htable hcs hkey
  | add hfind hc hnew => exact .add hfind hc hnew
  | mark hfind hc hrole hfixed hnew =>
    exact .mark hfind hc hrole hfixed fun h => hnew (hstart.mem_names h)

/-- More columns of the table may be required. -/
theorem required_mono (htable : r'.table = r.table) (hrequired : r'.required ⊆ r.required)
    (hnames : (r.required.map Column.name).Nodup) (h : r'.Permits o key start t t') :
    r.Permits o key start t t' := by
  have hplace : r'.place o = r.place o := by rw [place, htable, place]
  have hadds : ∀ {c}, r'.Adds o c → r.Adds o c := fun h => ⟨hrequired h.required, h.fits⟩
  cases h with
  | nothing => exact .nothing t
  | create hfree htable' hcs hkey =>
    rw [hplace] at hfree ⊢
    exact .create hfree (htable ▸ htable') (fun c hc => hadds (hcs c hc)) hkey
  | add hfind hc hnew =>
    rw [hplace] at hfind ⊢
    exact .add hfind (hadds hc) hnew
  | mark hfind hc hrole hfixed hnew =>
    rw [hplace] at hfind hnew ⊢
    refine .mark hfind (hrequired hc) (fun d hd hname => ?_) hfixed hnew
    rw [List.inj_on_of_nodup_map hnames hd (hrequired hc) hname]
    exact hrole _ hc rfl

end Request.Permits

/-! ## Courses -/

/-- Steps one after the other, each of them permitted, from tables to tables. -/
inductive Course (P : Catalog → Catalog → Prop) :
    Catalog → List (Step SharedStore) → Catalog → Prop
  | nil (t : Catalog) : Course P t [] t
  | cons {step : Step SharedStore} {steps : List (Step SharedStore)} {t' : Catalog}
      (h : P step.before.tables step.after.tables) (hrest : Course P step.after.tables steps t') :
      Course P step.before.tables (step :: steps) t'

namespace Course

variable {P P' : Catalog → Catalog → Prop} {t t' t'' : Catalog}
  {steps steps' : List (Step SharedStore)}

theorem append (h : Course P t steps t') (h' : Course P t' steps' t'') :
    Course P t (steps ++ steps') t'' := by
  induction h with
  | nil t => exact h'
  | cons hstep _ ih => exact .cons hstep (ih h')

theorem mono (hP : ∀ t t', P t t' → P' t t') (h : Course P t steps t') : Course P' t steps t' := by
  induction h with
  | nil t => exact .nil t
  | cons hstep _ ih => exact .cons (hP _ _ hstep) ih

/-- The tables only grow, from each step to the next. -/
theorem growing (hP : ∀ t t', P t t' → t.GrowsInto t') (h : Course P t steps t') :
    (t :: steps.map fun step => step.after.tables).IsChain Catalog.GrowsInto ∧
      (t :: steps.map fun step => step.after.tables).getLast? = some t' := by
  induction h with
  | nil t => exact ⟨.singleton t, rfl⟩
  | cons hstep _ ih => exact ⟨.cons_cons (hP _ _ hstep) ih.1, by simpa using ih.2⟩

theorem growsInto (hP : ∀ t t', P t t' → t.GrowsInto t') (h : Course P t steps t') :
    t.GrowsInto t' := by
  induction h with
  | nil t => exact .refl t
  | cons hstep _ ih => exact (hP _ _ hstep).trans ih

end Course

/-! ## Calls where nobody else writes -/

namespace SharedStore

variable {s s' : SharedStore}

/-- Nobody else wrote to the tables. -/
def Untouched (s : SharedStore) : Prop := ∀ a ∈ s.acts, a.after.tables = a.before.tables

theorem Later.untouched (h : s.Later s') (hs : s'.Untouched) : s.Untouched :=
  fun a ha => hs a (h.subset ha)

theorem tables_note {m : MemoryStore} (h : (s.note m).Untouched) : m.tables = s.tables :=
  h ⟨s.memory, m⟩ (by simp [note])

theorem tables_takeTurn (h : s.takeTurn.Untouched) : s.takeTurn.tables = s.tables := by
  unfold takeTurn at h ⊢
  split
  · rfl
  next f rest hturns =>
    rw [hturns] at h
    exact tables_note h

/-- What a call did that is to change tables: it failed and changed nothing, or it changed
the tables. -/
structure Applies (change : Catalog → Except StoreError Catalog) (s : SharedStore)
    (answer : Except StoreError Unit) (s' : SharedStore) : Prop where
  rejected : ∀ e, answer = .error e → s'.tables = s.tables
  accepted : answer = .ok () → change s.tables = .ok s'.tables

theorem Applies.cases {change : Catalog → Except StoreError Catalog}
    {answer : Except StoreError Unit} (h : Applies change s answer s') :
    s'.tables = s.tables ∨ change s.tables = .ok s'.tables := by
  cases answer with
  | error e => exact .inl (h.rejected e rfl)
  | ok _ => exact .inr (h.accepted rfl)

theorem tables_columns (n table : String) (h : (Store.columns n table s).2.Untouched) :
    (Store.columns n table s).2.tables = s.tables :=
  ((s.takeTurn.memory.columns_keeps (n, table)).1).trans (tables_takeTurn h)

/-- As long as nobody else wrote, an execution has its own effect or none. -/
theorem execute_applies (sql : String) (h : (Store.execute sql s).2.Untouched) :
    Applies (fun t => t.run sql) s (Store.execute sql s).1 (Store.execute sql s).2 := by
  change (execute sql s).2.Untouched at h
  show Applies (fun t => t.run sql) s (execute sql s).1 (execute sql s).2
  cases hoffline : s.takeTurn.memory.isOffline with
  | true =>
    simp only [execute, hoffline, if_true] at h ⊢
    exact ⟨fun _ _ => tables_takeTurn h, fun hok => nomatch hok⟩
  | false =>
    simp only [execute, hoffline, Bool.false_eq_true, if_false] at h ⊢
    have hturn : s.takeTurn.tables = s.tables :=
      tables_takeTurn ((later_note s.takeTurn _).untouched h)
    have hland : s.takeTurn.memory.landWrite.tables = s.tables :=
      (tables_note (s := s.takeTurn) h).trans hturn
    obtain ⟨_, hrejected, haccepted⟩ := MemoryStore.executeUndisturbed_changed
      s.takeTurn.memory.landWrite sql (by simpa using hoffline)
    rw [hland] at hrejected haccepted
    exact ⟨hrejected, fun hok => (haccepted hok).1⟩

theorem comment_applies (n table column text : String)
    (h : (Store.comment n table column text s).2.Untouched) :
    Applies (fun t => t.comment (n, table) column text) s (Store.comment n table column text s).1
      (Store.comment n table column text s).2 := by
  obtain ⟨_, hrejected, haccepted⟩ := s.takeTurn.memory.comment_changed (n, table) column text
  have hturn : s.takeTurn.memory.tables = s.tables := tables_takeTurn h
  rw [hturn] at hrejected haccepted
  exact ⟨hrejected, fun hok => (haccepted hok).1⟩

end SharedStore

/-! ## Stores with a trace -/

/-- From one state of a store to a later one by permitted steps, if nobody else writes. -/
def Advances (P : Catalog → Catalog → Prop) (s s' : Traced SharedStore) : Prop :=
  s.store.Later s'.store ∧ ∃ new, s'.steps = s.steps ++ new ∧
    (s'.store.Untouched → Course P s.store.tables new s'.store.tables)

namespace Advances

variable {P P' : Catalog → Catalog → Prop} {s s' s'' : Traced SharedStore}

theorem refl (s : Traced SharedStore) : Advances P s s :=
  ⟨.refl _, [], (List.append_nil _).symm, fun _ => .nil _⟩

theorem trans (h : Advances P s s') (h' : Advances P s' s'') : Advances P s s'' := by
  obtain ⟨hlater, new, hnew, hcourse⟩ := h
  obtain ⟨hlater', new', hnew', hcourse'⟩ := h'
  exact ⟨hlater.trans hlater', new ++ new', by rw [hnew', hnew, List.append_assoc],
    fun hs => (hcourse (hlater'.untouched hs)).append (hcourse' hs)⟩

theorem mono (hP : s.store.Untouched → ∀ t t', P t t' → P' t t') (h : Advances P s s') :
    Advances P' s s' := by
  obtain ⟨hlater, new, hnew, hcourse⟩ := h
  exact ⟨hlater, new, hnew, fun hs => (hcourse hs).mono (hP (hlater.untouched hs))⟩

/-- A call is one step. -/
theorem of_call {α : Type} {c : StoreCall} {f : SharedStore → Except StoreError α × SharedStore}
    (hlater : s.store.Later (f s.store).2)
    (h : (f s.store).2.Untouched → P s.store.tables (f s.store).2.tables) :
    Advances P s (Traced.call c f s).2 := by
  refine ⟨hlater, [⟨c, s.store, (f s.store).2⟩], rfl, fun hs => ?_⟩
  have hstep : ∀ step : Step SharedStore, P step.before.tables step.after.tables →
      Course P step.before.tables [step] step.after.tables := fun _ h => .cons h (.nil _)
  exact hstep ⟨c, s.store, (f s.store).2⟩ (h hs)

theorem growsInto (hP : ∀ t t', P t t' → t.GrowsInto t') (h : Advances P s s')
    (hs : s'.store.Untouched) : s.store.tables.GrowsInto s'.store.tables := by
  obtain ⟨_, new, _, hcourse⟩ := h
  exact (hcourse hs).growsInto hP

end Advances

/-- What a request may do to a store: a course of permitted steps. -/
def widening (o : Options) (r : Request) (key : Column) : Frame (Traced SharedStore) where
  allows s s' := Advances (r.Permits o key s.store.tables) s s'
  refl s := .refl s
  trans h h' := h.trans <| h'.mono fun hs _ _ =>
    Request.Permits.earlier (h.growsInto (fun _ _ => Request.Permits.growsInto) hs)

/-- A call that is given up does nothing; any other is made. -/
theorem Reconciliation.bounded_cases {σ α : Type} [Store σ] (limit : Duration)
    (call : σ → Except StoreError α × σ) (w : Workspace σ) :
    (∃ e, (bounded limit call w).1 = .error e ∧ (bounded limit call w).2.store = w.store) ∨
      (bounded limit call w).1 = (call w.store).1.mapError .store ∧
        (bounded limit call w).2.store = (call w.store).2 := by
  by_cases hslow : limit < Store.latency w.store
  · have hrun : bounded limit call w = (.error (.store (.timeout limit)),
        { w with elapsed := w.elapsed + limit }) := if_pos hslow
    rw [hrun]
    exact .inl ⟨_, rfl, rfl⟩
  · rw [run_bounded hslow (rfl : call w.store = (_, _))]
    exact .inr ⟨rfl, rfl⟩

/-- A call, and what goes on if it succeeds. -/
theorem Advances.call_bind {α β : Type} {P : Catalog → Catalog → Prop} {limit : Duration}
    {c : StoreCall} {f : SharedStore → Except StoreError α × SharedStore}
    {g : α → Reconciliation (Traced SharedStore) β} {w : Workspace (Traced SharedStore)}
    (hlater : w.store.store.Later (f w.store.store).2)
    (hstep : (f w.store.store).2.Untouched → P w.store.store.tables (f w.store.store).2.tables)
    (hok : ∀ a w₁, (f w.store.store).1 = .ok a → w₁.store = (Traced.call c f w.store).2 →
      Advances P w₁.store (g a w₁).2.store) :
    Advances P w.store ((bounded limit (Traced.call c f) >>= g) w).2.store := by
  have hcases := bounded_cases limit (Traced.call c f) w
  rcases hrun : bounded limit (Traced.call c f) w with ⟨answer, w₁⟩
  rw [hrun] at hcases
  rcases hcases with ⟨e, rfl, hstore⟩ | ⟨hanswer, hstore⟩
  · rw [run_bind_of_error hrun]
    exact hstore ▸ .refl _
  · have hfirst : Advances P w.store w₁.store := hstore ▸ .of_call hlater hstep
    cases hf : (f w.store.store).1 with
    | error e =>
      obtain rfl : answer = .error (.store e) := hanswer.trans (congrArg (Except.mapError _) hf)
      rw [run_bind_of_error hrun]
      exact hfirst
    | ok a =>
      obtain rfl : answer = .ok a := hanswer.trans (congrArg (Except.mapError _) hf)
      rw [run_bind_of_ok hrun]
      exact hfirst.trans (hok a w₁ hf hstore)

/-! ## Marks -/

/-- Columns that are new since a start stand at the end of the table, and those of some tags
have no marks yet. -/
structure AwaitsMarks (p : TablePlace) (start t : Catalog) (tags : List Column) : Prop where
  columns : ∃ old own, t.find? p = some (old ++ own) ∧ (own.map StoredColumn.name).Nodup ∧
    (∀ s ∈ own, s.name ∉ old.map StoredColumn.name) ∧ ∀ c ∈ tags, c.stored ∈ own
  new : ∀ c ∈ tags, c.name ∉ (start.columnsAt p).map StoredColumn.name

/-- A mark goes to the column that is meant, and the others go on waiting. -/
theorem AwaitsMarks.comment {p : TablePlace} {start t : Catalog} {c : Column} {tags : List Column}
    (h : AwaitsMarks p start t (c :: tags)) (hnames : ((c :: tags).map Column.name).Nodup) :
    ∃ before after, t.find? p = some (before ++ c.stored :: after) ∧
      t.comment p c.name tagComment = .ok (t.insert p (before ++ c.stored.asTag :: after)) ∧
      AwaitsMarks p start (t.insert p (before ++ c.stored.asTag :: after)) tags := by
  obtain ⟨⟨old, own, hfind, hown, hold, htags⟩, hnew⟩ := h
  obtain ⟨front, back, rfl⟩ := List.append_of_mem (htags c List.mem_cons_self)
  have hlist : old ++ (front ++ c.stored :: back) = (old ++ front) ++ c.stored :: back := by simp
  have hbefore : c.name ∉ (old ++ front).map StoredColumn.name := by
    simp only [List.map_append, List.map_cons, List.nodup_append] at hown
    rw [List.map_append, List.mem_append, not_or]
    exact ⟨hold c.stored (by simp), fun hmem => hown.2.2 _ hmem _ List.mem_cons_self rfl⟩
  obtain ⟨hidx, hmodify⟩ := findIdx?_first (s := c.stored) (n := c.name) (old ++ front) back rfl
    hbefore StoredColumn.asTag
  rw [hlist] at hfind
  refine ⟨old ++ front, back, hfind, ?_, ⟨old, front ++ c.stored.asTag :: back, ?_, ?_, ?_, ?_⟩, ?_⟩
  · rw [← hmodify, Catalog.comment, hfind]
    simp only [hidx]
    rfl
  · rw [KeyMap.find?_insert_self, List.append_assoc]
  · simpa using hown
  · intro s hs
    simp only [List.mem_append, List.mem_cons] at hs
    rcases hs with hs | rfl | hs
    · exact hold s (by simp [hs])
    · exact hold c.stored (by simp)
    · exact hold s (by simp [hs])
  · intro d hd
    have hne : d.stored ≠ c.stored := fun heq => (List.nodup_cons.1 hnames).1
      (List.mem_map.2 ⟨d, hd, congrArg StoredColumn.name heq⟩)
    have hmem := htags d (List.mem_cons_of_mem _ hd)
    simp only [List.mem_append, List.mem_cons, hne, false_or] at hmem ⊢
    exact hmem.imp_right .inr
  · exact fun d hd => hnew d (List.mem_cons_of_mem _ hd)

/-! ## Requests -/

namespace Request

/-- A request with one statement for each change, for columns with one key among them. The
key can be created, and no tag has the name of a fixed column. -/
structure IsKeyed (o : Options) (r : Request) (key : Column) : Prop where
  names : (r.required.map Column.name).Nodup
  types : ∀ c ∈ r.required, ∀ s, c.type ≠ .other s
  create : r.createTemplates = [.createTable] ∨ r.createTemplates = [.createTagTable]
  add : r.addColumnTemplates = [.addColumn]
  key : r.Adds o key
  tags : ∀ c ∈ r.required, c.role = .tag → c.name ≠ o.timeColumn.name ∧ c.name ≠ o.tagIdColumn.name

variable {o : Options} {r : Request} {key : Column} {start : Catalog} (hr : r.IsKeyed o key)
include hr

/-- The comments that mark tags are permitted for columns that wait for them. -/
theorem advances_marks {tags : List Column} (hnames : (tags.map Column.name).Nodup)
    (htags : ∀ c ∈ tags, c ∈ r.required ∧ c.role = .tag) (w : Workspace (Traced SharedStore))
    (hw : w.store.store.Untouched → AwaitsMarks (r.place o) start w.store.store.tables tags) :
    Advances (r.Permits o key start) w.store ((tags.forM fun c => bounded o.statementTimeout
      (Store.comment o.namespaceName r.table c.name tagComment)) w).2.store := by
  induction tags generalizing w with
  | nil => exact .refl _
  | cons c cs ih =>
    let mark : Column → Reconciliation (Traced SharedStore) PUnit := fun c =>
      bounded o.statementTimeout (Store.comment o.namespaceName r.table c.name tagComment)
    show Advances _ w.store ((mark c >>= fun _ => cs.forM mark) w).2.store
    have happlies := SharedStore.comment_applies (s := w.store.store) o.namespaceName r.table c.name
      tagComment
    have hlater := SharedStore.later_comment (r.place o) w.store.store c.name tagComment
    have hrest : ((cs.map Column.name).Nodup) := (List.nodup_cons.1 hnames).2
    obtain ⟨hc, hrole⟩ := htags c List.mem_cons_self
    refine Advances.call_bind hlater (fun hs => ?_) fun _ w₁ hok hstore =>
      ih hrest (fun d hd => htags d (List.mem_cons_of_mem _ hd)) w₁ fun hs => ?_
    · rcases (happlies hs).cases with htables | hchange
      · rw [htables]
        exact .nothing _
      · obtain ⟨before, after, hfind, hcomment, _⟩ := (hw (hlater.untouched hs)).comment hnames
        rw [← Except.ok.inj (hcomment.symm.trans hchange)]
        refine .mark hfind hc (fun d hd hname => ?_) (hr.tags c hc hrole)
          ((hw (hlater.untouched hs)).new c List.mem_cons_self)
        rw [List.inj_on_of_nodup_map hr.names hd hc hname]
        exact hrole
    · have hcalled : w₁.store.store = (Store.comment o.namespaceName r.table c.name tagComment
          w.store.store).2 := congrArg Traced.store hstore
      rw [hcalled] at hs ⊢
      obtain ⟨before, after, _, hcomment, hwaits⟩ := (hw (hlater.untouched hs)).comment hnames
      have hchange := (happlies hs).accepted hok
      rw [← Except.ok.inj (hcomment.symm.trans hchange)]
      exact hwaits

/-- A statement that is permitted, and then the marks of its columns. -/
theorem widens_carryOut {template : Template} {cs allColumns : List Column}
    (hcs : ∀ c ∈ cs, r.Adds o c) (hnames : (cs.map Column.name).Nodup)
    (hstep : ∀ (sql : String) (t t' : Catalog),
      template.render (r.context o cs allColumns) = .ok sql → t.run sql = .ok t' →
        r.Permits o key t t t' ∧
          AwaitsMarks (r.place o) t t' (cs.filter fun c => c.role == .tag)) :
    (widening o r key).Keeps (r.carryOut o [template] cs allColumns) := by
  intro w
  have hcarryOut :
      (r.carryOut o [template] cs allColumns : Reconciliation (Traced SharedStore) PUnit) =
      runTemplate o (r.context o cs allColumns) template >>= fun _ => r.markTags o cs := by
    simp [carryOut]
  rw [hcarryOut, runTemplate]
  cases hrender : template.render (r.context o cs allColumns) with
  | error fault => exact .refl _
  | ok sql =>
    have happlies := SharedStore.execute_applies (s := w.store.store) sql
    have hlater := SharedStore.later_execute w.store.store sql
    refine Advances.call_bind hlater (fun hs => ?_) fun _ w₁ hok hstore => ?_
    · rcases (happlies hs).cases with htables | hchange
      · rw [htables]
        exact .nothing _
      · exact (hstep sql _ _ hrender hchange).1
    · refine advances_marks hr (hnames.sublist (List.filter_sublist.map _)) (fun c hc => ?_) w₁
        fun hs => ?_
      · obtain ⟨hc, hrole⟩ := List.mem_filter.1 hc
        exact ⟨(hcs c hc).required, by simpa using hrole⟩
      · have hcalled : w₁.store.store = (Store.execute sql w.store.store).2 :=
          congrArg Traced.store hstore
        rw [hcalled] at hs ⊢
        exact (hstep sql _ _ hrender ((happlies hs).accepted hok)).2

/-- Creating a table is a permitted step, and so is each mark on its tags. -/
theorem widens_create {cs : List Column} (hcs : r.Creates o cs) :
    (widening o r key).Keeps (r.carryOut o r.createTemplates cs cs) := by
  have hadds : ∀ c ∈ cs, r.Adds o c := fun c hc => hcs.adds hc
  have hnames : (cs.map Column.name).Nodup :=
    (hcs.perm.map _).nodup_iff.2 (hr.names.sublist (List.filter_sublist.map _))
  have htypes : ∀ c ∈ cs, ∀ s, c.type ≠ .other s := fun c hc => hr.types c (hadds c hc).required
  have hkey : key ∈ cs := hcs.perm.mem_iff.2 (List.mem_filter.2 ⟨hr.key.required, hr.key.fits⟩)
  have hcreates : ∀ {template : Template}, template.Creates (r.context o cs cs) →
      (widening o r key).Keeps (r.carryOut o [template] cs cs) := by
    intro template htemplate
    refine widens_carryOut hr hadds hnames fun sql t t' hrender hrun => ?_
    obtain ⟨hfree, rfl⟩ := htemplate sql t t' hrender hrun
    refine ⟨.create hfree hcs.table hadds hkey, ⟨[], cs.map Column.stored, ?_, ?_, ?_, ?_⟩, ?_⟩
    · exact KeyMap.find?_insert_self ..
    · rw [List.map_map]
      exact hnames
    · simp
    · exact fun c hc => List.mem_map.2 ⟨c, (List.mem_filter.1 hc).1, rfl⟩
    · intro c _
      have hnone : t.columnsAt (r.place o) = [] := by
        rw [Catalog.columnsAt, show t.find? (r.place o) = none from hfree, Option.getD_none]
      simp [hnone]
  rcases hr.create with hcreate | hcreate
  · rw [hcreate]
    exact hcreates (Template.createTable_creates hcs.nonempty hnames htypes)
  · rw [hcreate]
    exact hcreates (Template.createTagTable_creates hcs.nonempty hnames htypes)

/-- Adding a column is a permitted step, and so is the mark on it. -/
theorem widens_add {c : Column} (hc : r.Adds o c) (allColumns : List Column) :
    (widening o r key).Keeps (r.carryOut o r.addColumnTemplates [c] allColumns) := by
  rw [hr.add]
  refine widens_carryOut hr (by simpa using hc) (List.nodup_singleton _)
    fun sql t t' hrender hrun => ?_
  obtain ⟨old, hfind, hnew, rfl⟩ := Template.addColumn_appends (c := r.context o [c] allColumns) rfl
    (hr.types c hc.required) sql t t' hrender hrun
  have hnew : c.name ∉ old.map StoredColumn.name := hnew c List.mem_cons_self
  refine ⟨.add hfind hc hnew, ⟨old, [c.stored], ?_, List.nodup_singleton _, ?_, ?_⟩, ?_⟩
  · exact KeyMap.find?_insert_self ..
  · simpa using hnew
  · intro d hd
    rw [List.mem_singleton.1 (List.mem_filter.1 hd).1]
    exact List.mem_singleton_self _
  · intro d hd
    rw [List.mem_singleton.1 (List.mem_filter.1 hd).1,
      Catalog.columnsAt_of_find? (show t.find? (r.place o) = some old from hfind)]
    exact hnew

theorem isAllowed_widening : r.IsAllowed (widening o r key) o where
  columns s := .of_call (SharedStore.later_columns (r.place o) s.store) fun hs => by
    rw [SharedStore.tables_columns _ _ hs]
    exact .nothing _
  create _ hcs := widens_create hr hcs
  add _ hc allColumns := widens_add hr hc allColumns

/-- Bringing a table in step is a course of permitted steps, whatever fails. -/
theorem widens_ensure : (widening o r key).Keeps (r.ensure o) :=
  keeps_ensure (isAllowed_widening hr)

end Request

end MetricTables
