import MetricTables.Proofs.Reconcile.Cached
import MetricTables.Proofs.Reconcile.Ensure

/-!
# The effect of a request

On a quiet store a request with the default templates has one effect, which its required
columns and the columns of the table decide. A table that is not there is created in one
statement, a table that is there gets one statement for each column that it lacks and may have,
and what it cannot have is the answer.

## Main definitions

* `Request.refuses`, `Request.gains` — what becomes of a required column.
* `Request.effect` — the answer, the tables and the statements of a request.

## Main statements

* `addColumns_runs` — columns are added one by one behind those of the table.
* `Request.ensure_effect` — a request has its effect and no other.
-/

namespace MetricTables

open Reconciliation

namespace Request

variable (o : Options) (r : Request)

/-! ## What becomes of columns -/

/-- Whether a table refuses a column: its name is taken by a column that cannot take its values,
or it is too long. -/
def refuses (cols : List StoredColumn) (c : Column) : Bool :=
  match cols.find? fun s => s.name == c.name with
  | some s => !(s.toColumn o).holds c
  | none => !Identifier.fits o.identifierMaxBytes c.name

/-- Whether a table gains a column: it has none of the name, and the name is not too long. -/
def gains (cols : List StoredColumn) (c : Column) : Bool :=
  !Catalog.hasColumn cols c.name && Identifier.fits o.identifierMaxBytes c.name

/-- The columns that a table refuses, in table order. -/
def refused (cols : List StoredColumn) : List Column :=
  (Column.sort r.required).filter (refuses o cols)

/-- The columns that a table gains, in table order. -/
def gained (cols : List StoredColumn) : List Column :=
  (Column.sort r.required).filter (gains o cols)

def creation (cs : List Column) : String :=
  "CREATE TABLE " ++ o.qualified r.table ++ " (" ++ Text.join ", " (cs.map Column.definition) ++ ")"

def addition (c : Column) : String :=
  "ALTER TABLE " ++ o.qualified r.table ++ " ADD COLUMN " ++ c.definition

end Request

/-- What a request comes to. -/
structure Effect where
  answer : Except SchemaError (List Column)
  tables : Catalog
  /-- The statements that take effect, oldest first. -/
  statements : List String

/-- What a request comes to, given the tables of the store. -/
def Request.effect (o : Options) (r : Request) (t : Catalog) : Effect :=
  let cols := t.columnsAt (r.place o)
  let gained := r.gained o cols
  let tables :=
    if gained.isEmpty then t else t.insert (r.place o) (cols ++ gained.map Column.marked)
  if t.contains (r.place o) then
    { answer := .ok (r.refused o cols)
      tables
      statements := gained.map (r.addition o) }
  else if Identifier.fits o.identifierMaxBytes r.table then
    { answer := .ok (r.refused o cols)
      tables
      statements := if gained.isEmpty then [] else [r.creation o gained] }
  else
    { answer := .error (.tableNameTooLong r.table o.identifierMaxBytes)
      tables := t
      statements := [] }

namespace Definition

variable {o : Options} {r : Request} {d : Definition} {cols : List StoredColumn}

/-- What is addable are the columns that the table gains. -/
theorem gap_addable_eq : ((ofColumns o cols).gap o.identifierMaxBytes
    (Column.sort r.required)).addable = r.gained o cols := by
  rw [gap, absent, List.filter_filter]
  refine List.filter_congr fun c _ => ?_
  have hiff : ((ofColumns o cols).find? c.name).isNone = !Catalog.hasColumn cols c.name := by
    rw [Bool.eq_iff_iff, Option.isNone_iff_eq_none, find?_ofColumns_eq_none]
    simp [Catalog.hasColumn]
  rw [hiff, Request.gains, Bool.and_comm]

/-- What is missing are the columns that the table refuses. -/
theorem sort_gap_missing (hcols : (cols.map StoredColumn.name).Nodup)
    (hnames : (r.required.map Column.name).Nodup) :
    Column.sort ((ofColumns o cols).gap o.identifierMaxBytes (Column.sort r.required)).missing =
      r.refused o cols := by
  have hmissing : ((ofColumns o cols).gap o.identifierMaxBytes
      (Column.sort r.required)).missing.Subperm r.required :=
    (List.sublist_append_left _ _).subperm.trans
      (gap_subperm.trans (Column.sort_perm r.required).subperm)
  refine Column.sort_eq_filter (Column.nodup_of_subperm hmissing hnames).of_map hnames fun c => ?_
  rw [mem_missing, mem_conflicts, Column.mem_sort, find?_ofColumns hcols, Request.refuses]
  cases cols.find? fun s => s.name == c.name <;> simp

/-- What is known of a table decides what it gains and what it refuses. -/
theorem gap_eq (hd : d = ofColumns o cols) (hcols : (cols.map StoredColumn.name).Nodup)
    (hnames : (r.required.map Column.name).Nodup) :
    (d.gap o.identifierMaxBytes (Column.sort r.required)).addable = r.gained o cols ∧
      Column.sort (d.gap o.identifierMaxBytes (Column.sort r.required)).missing =
        r.refused o cols := by
  subst hd
  exact ⟨gap_addable_eq, sort_gap_missing hcols hnames⟩

end Definition

namespace Request

variable {o : Options} {r : Request} {w w' : Workspace MemoryStore} {cols : List StoredColumn}

theorem gained_subset : r.gained o cols ⊆ r.required :=
  fun _ hc => Column.mem_sort.1 (List.mem_filter.1 hc).1

/-! ## Statements -/

theorem render_creation (cs allColumns : List Column) :
    Template.createTable.render (r.context o cs allColumns) = .ok (r.creation o cs) := by
  rw [Template.render_createTable, ← String.append_assoc, ← String.append_assoc,
    ← String.append_assoc]
  rfl

theorem render_addition (c : Column) (allColumns : List Column) :
    Template.addColumn.render (r.context o [c] allColumns) = .ok (r.addition o c) := by
  rw [Template.render_addColumn, ← String.append_assoc, ← String.append_assoc]
  rfl

/-! ## The table exists -/

/-- What adding columns behind those of the table leaves. -/
def extended (o : Options) (r : Request) (w : Workspace MemoryStore) (cols : List StoredColumn)
    (cs : List Column) : Workspace MemoryStore :=
  { w with
    store := { w.store with
      tables := w.store.tables.insert (r.place o) (cols ++ cs.map Column.marked)
      executed := w.store.executed ++ cs.map (r.addition o) }
    definition := w.definition.insertAll cs }

theorem extended_nil (hfind : w.store.tables.find? (r.place o) = some cols) :
    r.extended o w cols [] = w := by
  simp [extended, KeyMap.insert_of_find? hfind]

theorem extended_cons (c : Column) (cs : List Column) :
    r.extended o (r.extended o w cols [c]) (cols ++ [c].map Column.marked) cs =
      r.extended o w cols (c :: cs) := by
  simp [extended]

/-- A column that the table does not have is added behind the others. -/
theorem tryAddColumn_runs (hw : w.store.IsQuiet o) (hadd : r.addColumnTemplates = [.addColumn])
    {c : Column} (htype : ∀ s, c.type ≠ .other s)
    (hfind : w.store.tables.find? (r.place o) = some cols)
    (hnew : c.name ∉ cols.map StoredColumn.name) :
    RunsTo (r.tryAddColumn o c) w (.ok true) (r.extended o w cols [c]) := by
  have hrun : w.store.tables.run (r.addition o c) =
      .ok (w.store.tables.insert (r.place o) (cols ++ [c].map Column.stored)) := by
    have hplace : (r.context o [c] []).place = r.place o := rfl
    rw [Catalog.run_addColumn (render_addition c []) rfl htype, hplace, hfind]
    simp [Catalog.hasColumn_eq_false hnew]
  have hadded : RunsTo (r.addColumn o c) w (.ok ⟨⟩) (r.extended o w cols [c]) := by
    unfold addColumn
    rw [hadd]
    refine .known_bind (.bind (carryOut_runs hw (render_addition c _) hrun ?_ ?_)
      (.setDefinition (·.insert c) _))
    · exact List.nodup_singleton _
    · simpa using hnew
  exact .attempt_bind hadded (.pure true _)

/-- A column that the table has is not added, and is there if it can take the values. -/
theorem tryAddColumn_taken (hw : w.store.IsQuiet o) (hadd : r.addColumnTemplates = [.addColumn])
    {c : Column} (htype : ∀ s, c.type ≠ .other s)
    (hfind : w.store.tables.find? (r.place o) = some cols)
    (htaken : Catalog.hasColumn cols c.name = true) :
    RunsTo (r.tryAddColumn o c) w
      (.ok ((Definition.ofColumns o cols).find? c.name |>.any fun existing => existing.holds c))
      (r.asked o w) := by
  have hrun : w.store.tables.run (r.addition o c) =
      .error (Catalog.columnExists (r.place o).2 c.name) := by
    have hplace : (r.context o [c] []).place = r.place o := rfl
    rw [Catalog.run_addColumn (render_addition c []) rfl htype, hplace, hfind]
    simp [htaken]
  have hrejected : RunsTo (r.addColumn o c) w
      (.error (.store (Catalog.columnExists (r.place o).2 c.name))) w := by
    unfold addColumn
    rw [hadd]
    exact .known_bind (.bind_error (carryOut_runs_error hw (render_addition c _) hrun))
  refine .attempt_bind hrejected (.bind (refresh_runs hw.responds) (.known_bind ?_))
  rw [asked, hfind]
  exact .pure _ _

theorem addColumns_of_added {c : Column} {cs : List Column} {w₁ : Workspace MemoryStore}
    (h : RunsTo (r.tryAddColumn o c) w (.ok true) w₁)
    (hrest : RunsTo (r.addColumns o cs) w₁ (.ok []) w') :
    RunsTo (r.addColumns o (c :: cs)) w (.ok []) w' := .bind h (.bind hrest (.pure [] _))

/-- Columns are added one by one behind those of the table. -/
theorem addColumns_runs (hw : w.store.IsQuiet o) (hadd : r.addColumnTemplates = [.addColumn])
    {cs : List Column} (htypes : ∀ c ∈ cs, ∀ s, c.type ≠ .other s)
    (hfind : w.store.tables.find? (r.place o) = some cols) (hfresh : Fresh cs cols) :
    RunsTo (r.addColumns o cs) w (.ok []) (r.extended o w cols cs) := by
  induction cs generalizing w cols with
  | nil =>
    rw [extended_nil hfind]
    exact .pure [] w
  | cons c cs ih =>
    have hfirst := tryAddColumn_runs hw hadd (htypes c List.mem_cons_self) hfind
      (hfresh.new c List.mem_cons_self)
    have hrest := ih (w := r.extended o w cols [c]) (hw.change _ _ _)
      (fun d hd => htypes d (List.mem_cons_of_mem _ hd)) (KeyMap.find?_insert_self ..) hfresh.marked
    rw [extended_cons] at hrest
    exact addColumns_of_added hfirst hrest

/-- Extending a table is adding what it lacks. -/
theorem extend_of_added (hadd : r.addColumnTemplates = [.addColumn]) {g : Gap}
    (hne : g.addable ≠ []) (h : RunsTo (r.addColumns o g.addable) w (.ok []) w') :
    RunsTo (r.extend o g) w (.ok (Column.sort g.missing)) w' := by
  unfold extend
  rw [hadd, if_neg (by simpa using hne)]
  refine .bind h ?_
  rw [List.append_nil]
  exact .pure _ _

/-- Extending a table adds what it lacks. -/
theorem extend_runs (hw : w.store.IsQuiet o) (hadd : r.addColumnTemplates = [.addColumn]) {g : Gap}
    (htypes : ∀ c ∈ g.addable, ∀ s, c.type ≠ .other s)
    (hfind : w.store.tables.find? (r.place o) = some cols) (hfresh : Fresh g.addable cols) :
    RunsTo (r.extend o g) w (.ok (Column.sort g.missing)) (r.extended o w cols g.addable) := by
  by_cases hempty : g.addable = []
  · rw [hempty, extended_nil hfind, extend, if_pos (by simp [hempty])]
    exact .pure _ w
  · exact extend_of_added hadd hempty (addColumns_runs hw hadd htypes hfind hfresh)

/-! ## The table does not exist -/

def created (o : Options) (r : Request) (w : Workspace MemoryStore) (cs : List Column) :
    Workspace MemoryStore :=
  { w with
    store := { w.store with
      tables := w.store.tables.insert (r.place o) (cs.map Column.marked)
      executed := w.store.executed ++ [r.creation o cs] }
    definition := w.definition.insertAll cs }

/-- On a quiet store the table is created with what can be added, and the rest is reported. -/
theorem create_runs (hw : w.store.IsQuiet o) (hcreate : r.createTemplates = [.createTable])
    {required : List Column} {g : Gap} (hne : g.addable ≠ [])
    (hnames : (g.addable.map Column.name).Nodup)
    (htypes : ∀ c ∈ g.addable, ∀ s, c.type ≠ .other s)
    (hlacks : w.store.tables.contains (r.place o) = false) :
    RunsTo (r.create o required g) w (.ok (Column.sort g.missing)) (r.created o w g.addable) := by
  have hrun : w.store.tables.run (r.creation o g.addable) =
      .ok (w.store.tables.insert (r.place o) (g.addable.map Column.stored)) := by
    have hplace : (r.context o g.addable g.addable).place = r.place o := rfl
    rw [Catalog.run_createTable (render_creation g.addable g.addable) hne hnames htypes, hplace,
      hlacks]
    rfl
  have htable : RunsTo (r.createTable o g.addable) w (.ok ⟨⟩) (r.created o w g.addable) :=
    createTable_runs hw hcreate (render_creation g.addable g.addable) hrun hnames
  exact .attempt_bind htable (.pure _ _)

/-! ## The effect -/

/-- The state in which a request leaves its workspace. -/
def affected (o : Options) (r : Request) (w : Workspace MemoryStore) : Workspace MemoryStore :=
  { w with
    store := { w.store with
      tables := (r.effect o w.store.tables).tables
      executed := w.store.executed ++ (r.effect o w.store.tables).statements }
    definition := .ofStored o ((r.effect o w.store.tables).tables.find? (r.place o)) }

/-- What a table is read as once it gained columns. -/
theorem insertAll_gained (hrecovered : ∀ c ∈ r.required, c.IsRecovered o)
    (cols : List StoredColumn) : (Definition.ofColumns o cols).insertAll (r.gained o cols) =
      .ofColumns o (cols ++ (r.gained o cols).map Column.marked) :=
  (Definition.ofColumns_marked fun c hc => hrecovered c (gained_subset hc)).symm

theorem contains_of_find? {t : Catalog} {p : TablePlace} (h : t.find? p = some cols) :
    t.contains p = true := by
  simp [KeyMap.contains, h]

/-- A table that exists is extended by what it gains. -/
theorem extended_gained (hrecovered : ∀ c ∈ r.required, c.IsRecovered o)
    (hfind : w.store.tables.find? (r.place o) = some cols)
    (hdefinition : w.definition = .ofColumns o cols) :
    r.extended o w cols (r.gained o cols) = r.affected o w := by
  have hcontains := contains_of_find? hfind
  have hcolumns := Catalog.columnsAt_of_find? hfind
  by_cases hnil : r.gained o cols = []
  · rw [hnil, extended_nil hfind]
    simp [affected, effect, hcontains, hcolumns, hnil, hfind, Definition.ofStored_eq, ← hdefinition]
  · have hread := insertAll_gained hrecovered cols
    simp [extended, affected, effect, hcontains, hcolumns, hnil, hdefinition, hread,
      Definition.ofStored_eq]

/-- A table that does not exist is created with what it gains. -/
theorem created_gained (hrecovered : ∀ c ∈ r.required, c.IsRecovered o)
    (hfind : w.store.tables.find? (r.place o) = none)
    (hfits : Identifier.fits o.identifierMaxBytes r.table = true) (hne : r.gained o [] ≠ [])
    (hdefinition : w.definition = .unknown) :
    r.created o w (r.gained o []) = r.affected o w := by
  have hcontains : w.store.tables.contains (r.place o) = false := by simp [KeyMap.contains, hfind]
  have hcolumns : w.store.tables.columnsAt (r.place o) = [] := by simp [Catalog.columnsAt, hfind]
  have hread := insertAll_gained hrecovered []
  have hunknown : Definition.ofColumns o [] = .unknown := rfl
  rw [hunknown, List.nil_append] at hread
  simp [created, affected, effect, hcontains, hcolumns, hfits, hne, hdefinition, hread,
    Definition.ofStored_eq]

/-- A table that does not exist stays so if it would gain nothing or its name is too long. -/
theorem affected_eq_self (hfind : w.store.tables.find? (r.place o) = none)
    (hdefinition : w.definition = .unknown)
    (h : r.gained o [] = [] ∨ Identifier.fits o.identifierMaxBytes r.table = false) :
    r.affected o w = w := by
  have hcontains : w.store.tables.contains (r.place o) = false := by simp [KeyMap.contains, hfind]
  have hcolumns : w.store.tables.columnsAt (r.place o) = [] := by simp [Catalog.columnsAt, hfind]
  have hread : w.definition = .ofColumns o [] := hdefinition
  cases hfits : Identifier.fits o.identifierMaxBytes r.table with
  | true =>
    have hnil : r.gained o [] = [] := h.resolve_right (by simp [hfits])
    simp [affected, effect, hcontains, hcolumns, hnil, hfits, hfind, Definition.ofStored_eq,
      ← hread]
  | false =>
    simp [affected, effect, hcontains, hfits, hfind, Definition.ofStored_eq, ← hread]

section Change

variable (hw : w.store.IsQuiet o) (hcreate : r.createTemplates = [.createTable])
  (hadd : r.addColumnTemplates = [.addColumn]) (hproper : w.store.tables.ProperAt (r.place o))
  (hstored : ((w.store.tables.columnsAt (r.place o)).map StoredColumn.name).Nodup)
  (hnames : (r.required.map Column.name).Nodup) (hrecovered : ∀ c ∈ r.required, c.IsRecovered o)
include hw hcreate hadd hproper hstored hnames hrecovered

omit hadd hproper in
/-- A request for a table that does not exist has its effect. -/
theorem change_runs_of_none (hfind : w.store.tables.find? (r.place o) = none)
    (hdefinition : w.definition = .unknown) :
    RunsTo (r.change o (Column.sort r.required)) w (r.effect o w.store.tables).answer
      (r.affected o w) := by
  have hrequired : (Column.sort r.required).Perm r.required := Column.sort_perm _
  have hcontains : w.store.tables.contains (r.place o) = false := by simp [KeyMap.contains, hfind]
  have hcolumns : w.store.tables.columnsAt (r.place o) = [] := by simp [Catalog.columnsAt, hfind]
  have hread : w.definition = .ofColumns o [] := hdefinition
  obtain ⟨haddable, hmissing⟩ := Definition.gap_eq hread (hcolumns ▸ hstored) hnames
  have htypes : ∀ c ∈ (w.definition.gap o.identifierMaxBytes (Column.sort r.required)).addable,
      ∀ s, c.type ≠ .other s := fun c hc => (hrecovered c (mem_gap_addable hrequired hc).1).type
  have hfresh := fresh_gap (o := o) hnames hrequired hread
  refine .known_bind ?_
  dsimp only
  rw [if_neg (by simp [hdefinition]), hcreate, List.isEmpty_cons, if_neg (by simp)]
  by_cases hfits : Identifier.fits o.identifierMaxBytes r.table = true
  · rw [if_neg (by simp [hfits])]
    by_cases hnil : r.gained o [] = []
    · rw [haddable, hnil, hmissing, affected_eq_self hfind hdefinition (.inl hnil)]
      simpa [effect, hcontains, hcolumns, hfits] using RunsTo.pure (r.refused o []) w
    · have hrun : RunsTo (r.create o (Column.sort r.required) _) w _ _ :=
        create_runs hw hcreate (haddable ▸ hnil) hfresh.names htypes hcontains
      rw [hmissing, haddable, created_gained hrecovered hfind hfits hnil hdefinition] at hrun
      rw [haddable, if_neg (by simpa using hnil)]
      simpa [effect, hcontains, hcolumns, hfits] using hrun
  · rw [if_pos (by simpa using hfits),
      affected_eq_self hfind hdefinition (.inr (by simpa using hfits))]
    simpa [effect, hcontains, hfits] using
      RunsTo.throw (α := List Column) (.tableNameTooLong r.table o.identifierMaxBytes) w

/-- A request that knows what the table is has its effect. -/
theorem change_runs
    (hdefinition : w.definition = .ofColumns o (w.store.tables.columnsAt (r.place o))) :
    RunsTo (r.change o (Column.sort r.required)) w (r.effect o w.store.tables).answer
      (r.affected o w) := by
  cases hfind : w.store.tables.find? (r.place o) with
  | some cols =>
    have hrequired : (Column.sort r.required).Perm r.required := Column.sort_perm _
    have hcolumns := Catalog.columnsAt_of_find? hfind
    rw [hcolumns] at hdefinition hstored
    obtain ⟨haddable, hmissing⟩ := Definition.gap_eq hdefinition hstored hnames
    have htypes : ∀ c ∈ (w.definition.gap o.identifierMaxBytes (Column.sort r.required)).addable,
        ∀ s, c.type ≠ .other s := fun c hc => (hrecovered c (mem_gap_addable hrequired hc).1).type
    have hfresh := fresh_gap (o := o) hnames hrequired hdefinition
    have hknown : w.definition.isKnown = true := by
      rw [hdefinition]
      exact Definition.isKnown_ofColumns fun hnil => hproper (hnil ▸ hfind)
    refine .known_bind ?_
    dsimp only
    rw [if_pos hknown]
    have hrun := extend_runs hw hadd htypes hfind hfresh
    rw [hmissing, haddable, extended_gained hrecovered hfind hdefinition] at hrun
    simpa [effect, contains_of_find? hfind, hcolumns] using hrun
  | none =>
    have hcolumns : w.store.tables.columnsAt (r.place o) = [] := by simp [Catalog.columnsAt, hfind]
    rw [hcolumns] at hdefinition
    exact change_runs_of_none hw hcreate hstored hnames hrecovered hfind hdefinition

/-- What a request does depends on the tables alone, provided that what is known agrees with them.
-/
theorem ensure_runs (hcache : w.definition = .unknown ∨
      w.definition = .ofColumns o (w.store.tables.columnsAt (r.place o))) :
    RunsTo (r.ensure o) w (r.effect o w.store.tables).answer
      (if w.definition.isKnown = true ∧ r.gained o (w.store.tables.columnsAt (r.place o)) = [] then
        r.affected o w
      else r.affected o (r.asked o w)) := by
  have hasked : RunsTo (do r.refresh o; r.change o (Column.sort r.required)) w
      (r.effect o w.store.tables).answer (r.affected o (r.asked o w)) :=
    .bind (refresh_runs hw.responds) (change_runs (w := r.asked o w) (hw.change _ _ _) hcreate hadd
      hproper hstored hnames hrecovered rfl)
  have hadd : r.addColumnTemplates ≠ [] := by simp [hadd]
  unfold ensure
  refine .known_bind ?_
  rcases hcache with hunknown | hdefinition
  · rw [settled?_eq hadd, if_neg (by simp [hunknown]), if_neg (by simp [hunknown])]
    exact hasked
  · obtain ⟨haddable, hmissing⟩ := Definition.gap_eq hdefinition hstored hnames
    rw [settled?_eq hadd, haddable, hmissing]
    by_cases hsettled : w.definition.isKnown = true ∧
        r.gained o (w.store.tables.columnsAt (r.place o)) = []
    · rw [if_pos hsettled, if_pos hsettled]
      obtain ⟨cols, hfind⟩ : ∃ cols, w.store.tables.find? (r.place o) = some cols := by
        cases hfind : w.store.tables.find? (r.place o) with
        | some cols => exact ⟨cols, rfl⟩
        | none =>
          rw [hdefinition, Catalog.columnsAt, hfind] at hsettled
          cases hsettled.1
      have hcolumns := Catalog.columnsAt_of_find? hfind
      rw [hcolumns] at hsettled hdefinition ⊢
      rw [← extended_gained hrecovered hfind hdefinition, hsettled.2, extended_nil hfind]
      simpa [effect, contains_of_find? hfind, hcolumns] using RunsTo.pure (r.refused o cols) w
    · rw [if_neg hsettled, if_neg hsettled]
      exact hasked

end Change

end Request

namespace Manager

variable {o : Options} {r : Request}

/-- What a request comes to, told of a manager. -/
theorem ensure_of_runsTo {m : Manager MemoryStore} {answer : Except SchemaError (List Column)}
    {w' : Workspace MemoryStore} (h : RunsTo (r.ensure o)
      { store := m.store, definition := m.cache.definition r.table } answer w') :
    ∃ elapsed, m.ensure o r = (answer,
      { store := w'.store, elapsed, cache := m.cache.put r.table w'.definition }) := by
  obtain ⟨elapsed, hrun⟩ := h m.elapsed
  exact ⟨elapsed, ensure_of_run hrun⟩

/-- With the default templates, on a store that nothing disturbs and with a cache that is right
about the table, a request has its effect and no other. The store is asked for the table once,
unless the cache shows that nothing is to be done. -/
theorem ensure_effect (m : Manager MemoryStore)
    (hcreate : Options.readTemplates [defaultCreateTemplate] = .ok r.createTemplates)
    (hadd : Options.readTemplates [defaultAddColumnTemplate] = .ok r.addColumnTemplates)
    (hquiet : m.store.IsQuiet o) (hproper : m.store.tables.ProperAt (r.place o))
    (hstored : ((m.store.tables.columnsAt (r.place o)).map StoredColumn.name).Nodup)
    (hcache : m.cache.definition r.table = .unknown ∨
      m.cache.definition r.table = .ofStored o (m.store.tables.find? (r.place o)))
    (hnames : (r.required.map Column.name).Nodup)
    (hrecovered : ∀ c ∈ r.required, c.IsRecovered o) :
    ∃ elapsed, m.ensure o r = ((r.effect o m.store.tables).answer,
      { store := { m.store with
          tables := (r.effect o m.store.tables).tables
          executed := m.store.executed ++ (r.effect o m.store.tables).statements
          structureQueries := m.store.structureQueries +
            if (m.cache.definition r.table).isKnown = true ∧
              r.gained o (m.store.tables.columnsAt (r.place o)) = [] then 0 else 1 }
        elapsed
        cache := m.cache.put r.table
          (.ofStored o ((r.effect o m.store.tables).tables.find? (r.place o))) }) := by
  obtain ⟨elapsed, hrun⟩ := ensure_of_runsTo (Request.ensure_runs
    (w := { store := m.store, definition := m.cache.definition r.table }) hquiet
    (Except.ok.inj (hcreate.symm.trans Options.readTemplates_default.1))
    (Except.ok.inj (hadd.symm.trans Options.readTemplates_default.2.2)) hproper hstored hnames
    hrecovered hcache)
  refine ⟨elapsed, ?_⟩
  rw [hrun]
  split <;> rfl

/-- A table that keeps hosts as fields. -/
def hostField : Manager MemoryStore where
  store :=
    { tables := KeyMap.empty.insert ("", "cpu")
        [{ name := "time", type := "timestamp without time zone" },
          { name := "host", type := "text" }] }

/-- A request for hosts as tags and for two columns more. -/
def hostTag : Request where
  table := "cpu"
  required := [⟨"usage", .field, .doublePrecision⟩, ⟨"time", .time, .timestamp⟩,
    ⟨"region", .tag, .text⟩, ⟨"host", .tag, .text⟩]
  createTemplates := [.createTable]
  addColumnTemplates := [.addColumn]
  metricTable := "cpu"
  tagTable := none

theorem effect_hostTag :
    (hostTag.effect .plain hostField.store.tables).answer = .ok [⟨"host", .tag, .text⟩] ∧
      (hostTag.effect .plain hostField.store.tables).statements =
        ["ALTER TABLE \"cpu\" ADD COLUMN \"region\" text",
          "ALTER TABLE \"cpu\" ADD COLUMN \"usage\" double precision"] := by
  have hsort : Column.sort hostTag.required = [⟨"time", .time, .timestamp⟩, ⟨"host", .tag, .text⟩,
      ⟨"region", .tag, .text⟩, ⟨"usage", .field, .doublePrecision⟩] :=
    Column.sort_eq_of_sorted (by decide +kernel) (by decide +kernel) (by decide +kernel)
  have hrefused : hostTag.refused .plain (hostField.store.tables.columnsAt (hostTag.place .plain)) =
      [⟨"host", .tag, .text⟩] := by
    rw [Request.refused, hsort]
    decide +kernel
  have hgained : hostTag.gained .plain (hostField.store.tables.columnsAt (hostTag.place .plain)) =
      [⟨"region", .tag, .text⟩, ⟨"usage", .field, .doublePrecision⟩] := by
    rw [Request.gained, hsort]
    decide +kernel
  have hcontains : hostField.store.tables.contains (hostTag.place .plain) = true := rfl
  simp only [Request.effect, hcontains, if_true, hrefused, hgained, true_and]
  decide +kernel

theorem ensure_effect_hostTag : (hostField.ensure .plain hostTag).1 = .ok [⟨"host", .tag, .text⟩] ∧
    (hostField.ensure .plain hostTag).2.store.executed =
      ["ALTER TABLE \"cpu\" ADD COLUMN \"region\" text",
        "ALTER TABLE \"cpu\" ADD COLUMN \"usage\" double precision"] := by
  have hrecovered : ∀ c ∈ hostTag.required, c.IsRecovered .plain := by
    have htypes : ∀ c ∈ hostTag.required, ∀ s, c.type ≠ .other s := by simp [hostTag]
    have hroles : ∀ c ∈ hostTag.required, c.marked.role .plain = c.role := by decide +kernel
    exact fun c hc => ⟨htypes c hc, hroles c hc⟩
  have hproper : hostField.store.tables.ProperAt (hostTag.place .plain) := by
    have hfind : hostField.store.tables.find? (hostTag.place .plain) = some _ :=
      KeyMap.find?_insert_self ..
    simp [Catalog.ProperAt, hfind]
  obtain ⟨elapsed, hrun⟩ := ensure_effect (o := .plain) (r := hostTag) hostField
    Options.readTemplates_default.1 Options.readTemplates_default.2.2
    ⟨⟨rfl, rfl, rfl⟩, rfl, by decide⟩ hproper (by decide) (.inl rfl) (by decide) hrecovered
  rw [hrun]
  exact effect_hostTag

end Manager

end MetricTables
