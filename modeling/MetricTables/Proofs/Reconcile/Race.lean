import MetricTables.Proofs.Reconcile.Winner

/-!
# Races

Another writer creates or changes the table just before the first statement of a request. The
request learns of it only where its statements fail on what is there already; it ends as if it
had come after the other writer from the start.

## Main definitions

* `Lands` — a computation begins with a statement, and so with the write of the other.
* `Request.IsReadable` — the statements that a race turns on can be read.
* `Request.Acts` — a request runs a statement.

## Main statements

* `ensure_races`, `ensure_reaches` — a request in a race and a request behind it.
* `Manager.ensure_race` — they end alike.
-/

namespace MetricTables

open Reconciliation

/-! ## The other comes first -/

/-- The workspace once the write of the other has landed. -/
def Workspace.landed (w : Workspace MemoryStore) : Workspace MemoryStore :=
  { w with store := w.store.landWrite }

/-- A computation begins with a statement, so that the write of the other lands first. -/
def Lands {α : Type} (x : Reconciliation MemoryStore α) (w : Workspace MemoryStore) : Prop :=
  ∀ elapsed, x { w with elapsed } = x { w.landed with elapsed }

namespace Lands

variable {α β : Type} {x : Reconciliation MemoryStore α} {f : α → Reconciliation MemoryStore β}
  {w : Workspace MemoryStore}

theorem bind (h : Lands x w) : Lands (x >>= f) w := by
  intro elapsed
  show (match x _ with | (answer, w') => ExceptT.bindCont f answer w') = _
  rw [h elapsed]
  rfl

theorem known_bind {f : Definition → Reconciliation MemoryStore β} (h : Lands (f w.definition) w) :
    Lands (known >>= f) w := h

theorem attempt (h : Lands x w) : Lands (attempt x) w := by
  intro elapsed
  show (Except.ok (x _).1, (x _).2) = _
  rw [h elapsed]
  rfl

/-- What a computation comes to behind the write. -/
theorem runsTo {answer : Except SchemaError α} {w' : Workspace MemoryStore} (h : Lands x w)
    (hx : RunsTo x w.landed answer w') : RunsTo x w answer w' := by
  intro elapsed
  rw [h elapsed]
  exact hx elapsed

theorem reaches {o : Options} {answer : Except SchemaError α} {t : Catalog} (h : Lands x w)
    (hx : Reaches o x w.landed answer t) : Reaches o x w answer t := by
  obtain ⟨w', hrun, hw'⟩ := hx
  exact ⟨w', h.runsTo hrun, hw'⟩

end Lands

/-- A store on which only one write of another is due. -/
structure MemoryStore.IsContested (o : Options) (s : MemoryStore) (p : TablePlace)
    (winner : List StoredColumn) : Prop where
  responds : s.Responds o
  noNext : s.nextFailures = []
  noText : s.textFailures = []
  writes : s.otherWrites = [(p, winner)]

namespace MemoryStore

variable {o : Options} {s : MemoryStore} {p : TablePlace} {winner : List StoredColumn}
  (hs : s.IsContested o p winner)
include hs

theorem IsContested.landed : s.landWrite =
    { s with tables := s.tables.insert p winner, otherWrites := [] } := by
  simp [landWrite, hs.writes, putTable]

theorem IsContested.quiet : s.landWrite.IsQuiet o := by
  rw [hs.landed]
  exact ⟨⟨hs.responds.online, hs.noNext, hs.noText⟩, rfl, hs.responds.fast⟩

theorem IsContested.find?_landed : s.landWrite.tables.find? p = some winner := by
  rw [hs.landed]
  exact KeyMap.find?_insert_self ..

theorem execute_landed (sql : String) : s.execute sql = s.landWrite.execute sql := by
  have hland : s.landWrite.landWrite = s.landWrite := by rw [landWrite, hs.quiet.noWrites]
  simp [execute, hland, hs.responds.online]

end MemoryStore

namespace Request

variable {o : Options} {r : Request} {w : Workspace MemoryStore} {winner : List StoredColumn}
  (hw : w.store.IsContested o (r.place o) winner)
include hw

/-- A statement that is rendered is where the write of the other lands. -/
theorem runTemplate_lands {c : Template.Context} {template : Template} {sql : String}
    (hrender : template.render c = .ok sql) : Lands (runTemplate o c template) w := by
  intro elapsed
  have hlatency : Store.latency w.landed.store = Store.latency w.store :=
    MemoryStore.landWrite_latency w.store
  rcases hcall : w.landed.store.execute sql with ⟨answer, s⟩
  have hrun : bounded o.statementTimeout (Store.execute sql) { w with elapsed } = _ :=
    run_bounded hw.responds.fast ((MemoryStore.execute_landed hw sql).trans hcall)
  have hrun' : bounded o.statementTimeout (Store.execute sql) { w.landed with elapsed } = _ :=
    run_bounded hw.quiet.fast hcall
  rw [hlatency] at hrun'
  unfold runTemplate
  rw [hrender]
  exact hrun.trans hrun'.symm

theorem carryOut_lands {template : Template} {cs allColumns : List Column} {sql : String}
    (hrender : template.render (r.context o cs allColumns) = .ok sql) :
    Lands (r.carryOut o [template] cs allColumns) w := (runTemplate_lands hw hrender).bind.bind

/-- Columns are added with statements, the first of which is behind the write. -/
theorem extend_lands (hadd : r.addColumnTemplates = [.addColumn]) {g : Gap} (hg : g.addable ≠ []) :
    Lands (r.extend o g) w := by
  obtain ⟨c, cs, hcs⟩ := List.exists_cons_of_ne_nil hg
  have hadded : Lands (r.addColumn o c) w := by
    unfold addColumn
    rw [hadd]
    exact .known_bind (carryOut_lands hw (render_addition c _)).bind
  have hall : Lands (r.addColumns o (c :: cs)) w := hadded.attempt.bind.bind
  unfold extend
  rw [if_neg (by simpa using hg), if_neg (by simp [hadd]), hcs]
  exact hall.bind

theorem create_lands {template : Template} (hcreate : r.createTemplates = [template])
    {required : List Column} {g : Gap} {sql : String}
    (hrender : template.render (r.context o g.addable g.addable) = .ok sql) :
    Lands (r.create o required g) w := by
  have htable : Lands (r.createTable o g.addable) w := by
    unfold createTable
    rw [hcreate]
    exact (carryOut_lands hw hrender).attempt.bind
  exact htable.attempt.bind

end Request

/-! ## Requests in a race -/

namespace Request

variable {o : Options} {r : Request} {stored winner : List StoredColumn}
  {w : Workspace MemoryStore} {template : Template}

/-- The default statements that create tables begin alike. -/
theorem render_default (htemplate : template = .createTable ∨ template = .createTagTable)
    (cs : List Column) : ∃ x, template.render (r.context o cs cs) =
      .ok ("CREATE TABLE " ++ Identifier.qualified (r.place o).1 (r.place o).2 ++ " (" ++ x) := by
  have hplace : Identifier.qualified (r.place o).1 (r.place o).2 =
      Identifier.qualified (r.context o cs cs).namespaceName (r.context o cs cs).table := rfl
  rcases htemplate with rfl | rfl
  · rw [Template.render_createTable, hplace, ← String.append_assoc, ← String.append_assoc]
    exact ⟨_, rfl⟩
  · rw [Template.render_createTagTable, hplace, ← String.append_assoc, ← String.append_assoc]
    exact ⟨_, rfl⟩

/-- The statements that a race turns on can be read: the creation of the table, or the additions
of columns that the table of the winner can take the values of. -/
structure IsReadable (o : Options) (r : Request) (stored winner : List StoredColumn) : Prop where
  creation : stored = [] → r.gained o [] ≠ [] → ∀ template ∈ r.createTemplates, ∀ sql,
    template.render (r.context o (r.gained o []) (r.gained o [])) = .ok sql →
      Sql.statements? sql ≠ none
  addition : stored ≠ [] → ∀ c ∈ r.gained o stored, Held o winner c →
    Sql.statements? (r.addition o c) ≠ none

theorem asked_contested (hw : w.store.IsContested o (r.place o) winner) :
    (r.asked o w).store.IsContested o (r.place o) winner :=
  ⟨⟨hw.responds.online, hw.responds.fast⟩, hw.noNext, hw.noText, hw.writes⟩

theorem tables_landed_asked (hw : w.store.IsContested o (r.place o) winner) :
    (r.asked o w).landed.store.tables = w.landed.store.tables := by
  show MemoryStore.tables (MemoryStore.landWrite _) = MemoryStore.tables (MemoryStore.landWrite _)
  rw [(asked_contested hw).landed, hw.landed]
  rfl

/-- A store that does not respond is not asked, and nothing happens. -/
theorem refresh_fails (hw : ¬ w.store.Responds o) : ∃ e, RunsTo (r.refresh o) w (.error e) w := by
  by_cases hfast : o.statementTimeout < w.store.latency
  · exact ⟨_, fun elapsed => ⟨_, run_bind_of_error (if_pos hfast)⟩⟩
  · have honline : w.store.isOffline = true := by
      by_contra honline
      exact hw ⟨eq_false_of_ne_true honline, hfast⟩
    have hcall : w.store.columns (r.place o) = (.error MemoryStore.offline, w.store) := by
      simp [MemoryStore.columns, honline]
    have hrun : RunsTo (bounded o.statementTimeout (Store.columns o.namespaceName r.table)) w _ _ :=
      .bounded hfast hcall
    exact ⟨_, hrun.bind_error⟩

/-- A request that is not settled comes to what it comes to once it asked the store. -/
theorem ensure_asks (hsettled : r.settled? o (Column.sort r.required) w.definition = none)
    {answer : Except SchemaError (List Column)} {w' : Workspace MemoryStore}
    (h : RunsTo (do r.refresh o; r.change o (Column.sort r.required)) w answer w') :
    RunsTo (r.ensure o) w answer w' := by
  intro elapsed
  rw [ensure_of_unsettled (w := { w with elapsed }) hsettled]
  exact h elapsed

section Change

variable {answer : Except SchemaError (List Column)} {w' : Workspace MemoryStore}
  (hdefinition : w.definition = .ofColumns o stored)
include hdefinition

/-- A table that is there is extended. -/
theorem change_of_extend (hstored : stored ≠ [])
    (h : RunsTo (r.extend o (r.gapOn o stored)) w answer w') :
    RunsTo (r.change o (Column.sort r.required)) w answer w' := by
  refine .known_bind ?_
  rw [hdefinition, if_pos (Definition.isKnown_ofColumns hstored)]
  exact h

/-- A table that is not there is created. -/
theorem change_of_create (hstored : stored = []) (hcreate : r.createTemplates ≠ [])
    (hfits : Identifier.fits o.identifierMaxBytes r.table = true) (hgained : r.gained o stored ≠ [])
    (h : RunsTo (r.create o (Column.sort r.required) (r.gapOn o stored)) w answer w') :
    RunsTo (r.change o (Column.sort r.required)) w answer w' := by
  subst hstored
  refine .known_bind ?_
  rw [hdefinition, if_neg (by simp [Definition.ofColumns]), if_neg (by simpa using hcreate),
    if_neg (by simp [hfits]), Definition.gap_addable_eq, if_neg (by simpa using hgained)]
  exact h

end Change

/-- A request that knows nothing extends a table that is there. -/
theorem ensure_of_extend (hresponds : w.store.Responds o) (hunknown : w.definition = .unknown)
    (hstored : w.store.tables.columnsAt (r.place o) = stored) (hne : stored ≠ [])
    {answer : Except SchemaError (List Column)} {t : Catalog}
    (h : Reaches o (r.extend o (r.gapOn o stored)) (r.asked o w) answer t) :
    Reaches o (r.ensure o) w answer t := by
  obtain ⟨w', hrun, hw'⟩ := h
  have hsettled := hunknown ▸ settled?_unknown (o := o) (r := r) (Column.sort r.required)
  have hchange := change_of_extend (w := r.asked o w) (hstored ▸ rfl) hne hrun
  exact ⟨w', ensure_asks hsettled ((refresh_runs hresponds).bind hchange), hw'⟩

variable (o r) in
/-- Whether a request that asked the store runs a statement: some column may be added, and the
table is not there or columns are added to tables. -/
def Acts (stored : List StoredColumn) : Prop :=
  r.gained o stored ≠ [] ∧ (stored = [] ∨ r.addColumnTemplates ≠ [])

/-- A request that runs no statement does nothing. -/
theorem change_spared (hdefinition : w.definition = .ofColumns o stored)
    (hacts : ¬ r.Acts o stored) :
    ∃ answer, RunsTo (r.change o (Column.sort r.required)) w answer w := by
  have haddable : (w.definition.gap o.identifierMaxBytes (Column.sort r.required)).addable =
      r.gained o stored := by rw [hdefinition, Definition.gap_addable_eq]
  suffices h : ∃ answer, RunsTo (changeFrom o r (Column.sort r.required) w.definition) w answer w by
    obtain ⟨answer, hrun⟩ := h
    exact ⟨answer, .known_bind hrun⟩
  unfold changeFrom extend
  dsimp only
  rw [haddable]
  by_cases hgained : r.gained o stored = []
  · rw [hgained, List.isEmpty_nil, if_pos rfl, if_pos rfl]
    split
    · exact ⟨_, .pure _ w⟩
    · split
      · exact ⟨_, .pure _ w⟩
      · split
        · exact ⟨_, .throw _ w⟩
        · exact ⟨_, .pure _ w⟩
  · obtain ⟨hstored, hadd⟩ : stored ≠ [] ∧ r.addColumnTemplates = [] := by
      simpa [Acts, hgained] using hacts
    rw [hdefinition, if_pos (Definition.isKnown_ofColumns hstored), if_neg (by simpa using hgained),
      hadd, List.isEmpty_nil, if_pos rfl]
    exact ⟨_, .pure _ w⟩

section Rejected

variable {cs required : List Column} {sql : String} {e : StoreError} (hw : w.store.IsQuiet o)
  (hcreate : r.createTemplates = [template])
include hw hcreate

/-- A table whose creation is rejected is not known then. -/
theorem createTable_rejected (hrender : template.render (r.context o cs cs) = .ok sql)
    (hrun : w.store.tables.run sql = .error e) :
    Reaches o (r.createTable o cs) w (.error (.store e)) w.store.tables := by
  unfold createTable
  rw [hcreate]
  refine .attempt_bind ⟨w, carryOut_runs_error hw hrender hrun, hw, rfl⟩ fun w₁ hw₁ ht₁ => ?_
  exact .bind (.setDefinition hw₁ ht₁ _) fun w₂ hw₂ ht₂ => .throw hw₂ ht₂ _

/-- If the creation of the table cannot be read, all that is required is missing. -/
theorem create_unreadable {g : Gap}
    (hrender : template.render (r.context o g.addable g.addable) = .ok sql)
    (hread : Sql.statements? sql = none) :
    Reaches o (r.create o required g) w (.ok required) w.store.tables := by
  have hrun := Catalog.run_of_none w.store.tables hread
  exact .attempt_bind (createTable_rejected hw hcreate hrender hrun) fun w₁ hw₁ ht₁ =>
    .pure hw₁ ht₁ _

end Rejected

section Defaults

variable (htemplate : template = .createTable ∨ template = .createTagTable)
  (hcreate : r.createTemplates = [template])
  (hadd : r.addColumnTemplates = [.addColumn] ∨ r.addColumnTemplates = [])
  (hnames : (r.required.map Column.name).Nodup) (h : IsWinner o stored winner)
include htemplate hcreate hadd hnames h

/-- A table that is there is not created; the rest is added to it. -/
theorem create_reaches (hw : w.store.IsQuiet o)
    (hfind : w.store.tables.find? (r.place o) = some winner)
    (hread : ∀ sql,
      template.render (r.context o (r.gained o stored) (r.gained o stored)) = .ok sql →
        Sql.statements? sql ≠ none) :
    Reaches o (r.create o (Column.sort r.required) (r.gapOn o stored)) w
      (.ok (r.afterwards o w.store.tables).1) (r.afterwards o w.store.tables).2 := by
  obtain ⟨x, hrender⟩ := render_default (o := o) (r := r) htemplate (r.gained o stored)
  have hcontains : w.store.tables.contains (r.place o) = true := contains_of_find? hfind
  have hrun := Catalog.run_creation hcontains (hread _ hrender)
  rw [← gapOn_addable] at hrender
  refine .attempt_bind (createTable_rejected hw hcreate hrender hrun) fun w₁ hw₁ ht₁ => ?_
  refine refresh_bind_reaches hw₁ fun w₂ hw₂ ht₂ hdefinition => ?_
  rw [ht₁, hfind, Definition.ofStored_eq, Option.getD_some] at hdefinition
  rw [ht₁] at ht₂
  rw [hdefinition]
  cases hknown : (Definition.ofColumns o winner).isKnown with
  | true =>
    rw [← extendSteps_left h hfind hnames hknown, ← ht₂]
    exact extend_reaches hw₂ hadd ((Definition.ofColumns o winner).left (r.gapOn o stored))
  | false =>
    have hafter : r.afterwards o w.store.tables = (Column.sort r.required, w.store.tables) := by
      unfold afterwards
      rw [hfind, Definition.ofStored_eq, Option.getD_some]
      exact if_neg (by simp [hknown])
    rw [hafter]
    exact .pure hw₂ ht₂ _

variable (hfits : Identifier.fits o.identifierMaxBytes r.table = true)
  (hreadable : r.IsReadable o stored winner) (hacts : r.Acts o stored)
include hfits hreadable hacts

/-- A request that finds the winner in place. -/
theorem change_reaches (hw : w.store.IsQuiet o)
    (hfind : w.store.tables.find? (r.place o) = some winner)
    (hdefinition : w.definition = .ofColumns o winner) :
    Reaches o (r.change o (Column.sort r.required)) w
      (.ok (r.afterwards o w.store.tables).1) (r.afterwards o w.store.tables).2 := by
  by_cases hknown : winner = []
  · -- a table without columns looks like no table
    subst hknown
    obtain rfl := List.subset_nil.1 h.keeps
    have hread := hreadable.creation rfl hacts.1 template (by simp [hcreate])
    obtain ⟨w', hrun, hw'⟩ := create_reaches htemplate hcreate hadd hnames h hw hfind hread
    exact ⟨w', change_of_create hdefinition rfl (by simp [hcreate]) hfits hacts.1 hrun, hw'⟩
  · rw [afterwards_of_isKnown hfind (Definition.isKnown_ofColumns hknown)]
    obtain ⟨w', hrun, hw'⟩ := extend_reaches hw hadd (r.gapOn o winner)
    exact ⟨w', change_of_extend hdefinition hknown hrun, hw'⟩

/-- A request that knows what the table was ends as if the winner had come before. -/
theorem change_races (hw : w.store.IsContested o (r.place o) winner)
    (hdefinition : w.definition = .ofColumns o stored) :
    Reaches o (r.change o (Column.sort r.required)) w
      (.ok (r.afterwards o w.landed.store.tables).1) (r.afterwards o w.landed.store.tables).2 := by
  have hfind : w.landed.store.tables.find? (r.place o) = some winner := hw.find?_landed
  by_cases hstored : stored = []
  · obtain ⟨x, hrender⟩ := render_default (o := o) (r := r) htemplate (r.gapOn o stored).addable
    have hread := hreadable.creation hstored (hstored ▸ hacts.1) template (by simp [hcreate])
    have hlands : Lands (r.create o (Column.sort r.required) (r.gapOn o stored)) w :=
      create_lands hw hcreate hrender
    obtain ⟨w', hrun, hw'⟩ := hlands.reaches
      (create_reaches htemplate hcreate hadd hnames h hw.quiet hfind (hstored ▸ hread))
    exact ⟨w', change_of_create hdefinition hstored (by simp [hcreate]) hfits hacts.1 hrun, hw'⟩
  · have hadd := hadd.resolve_right (hacts.2.resolve_left hstored)
    have hreaches := extend_reaches (w := w.landed) hw.quiet (.inl hadd) (r.gapOn o stored)
    have hafter := extendSteps_gapOn h hfind hnames hadd hstored (hreadable.addition hstored)
    rw [Prod.mk.injEq] at hafter
    rw [hafter.1, hafter.2] at hreaches
    obtain ⟨w', hrun, hw'⟩ := (extend_lands hw hadd (gapOn_addable ▸ hacts.1)).reaches hreaches
    exact ⟨w', change_of_extend hdefinition hstored hrun, hw'⟩

/-- A request in a race ends as if the winner had come before. -/
theorem ensure_races (hw : w.store.IsContested o (r.place o) winner)
    (hstored : w.store.tables.columnsAt (r.place o) = stored)
    (hsettled : r.settled? o (Column.sort r.required) w.definition = none) :
    Reaches o (r.ensure o) w (.ok (r.afterwards o w.landed.store.tables).1)
      (r.afterwards o w.landed.store.tables).2 := by
  obtain ⟨w', hrun, hw'⟩ := change_races htemplate hcreate hadd hnames h hfits hreadable hacts
    (asked_contested hw) (hstored ▸ rfl)
  rw [tables_landed_asked hw] at hrun hw'
  exact ⟨w', ensure_asks hsettled ((refresh_runs hw.responds).bind hrun), hw'⟩

/-- A request that finds the winner in place, and does not know less of the table than before. -/
theorem ensure_reaches (hw : w.store.IsQuiet o)
    (hfind : w.store.tables.find? (r.place o) = some winner)
    (hknown : r.settled? o (Column.sort r.required) w.definition = none ∨
      w.definition = .ofColumns o winner) :
    Reaches o (r.ensure o) w (.ok (r.afterwards o w.store.tables).1)
      (r.afterwards o w.store.tables).2 := by
  cases hsettled : r.settled? o (Column.sort r.required) w.definition with
  | none =>
    have hdefinition : (r.asked o w).definition = .ofColumns o winner := by
      show Definition.ofStored o (w.store.tables.find? (r.place o)) = _
      rw [hfind]
      rfl
    obtain ⟨w', hrun, hw'⟩ := change_reaches (w := r.asked o w) htemplate hcreate hadd hnames h
      hfits hreadable hacts (hw.change _ _ _) hfind hdefinition
    exact ⟨w', ensure_asks hsettled ((refresh_runs hw.responds).bind hrun), hw'⟩
  | some missing =>
    have hdefinition := hknown.resolve_left (by simp [hsettled])
    have hafter : r.afterwards o w.store.tables = (missing, w.store.tables) := by
      rw [hdefinition, settled?, Option.ite_none_right_eq_some, Bool.and_eq_true] at hsettled
      obtain ⟨⟨hknown, hempty⟩, hmissing⟩ := hsettled
      have hextend : r.extendSteps o (r.gapOn o winner).addable w.store.tables =
          ((r.gapOn o winner).addable, w.store.tables) := by
        rcases Bool.or_eq_true_iff.1 hempty with hempty | hempty
        · have haddable : (r.gapOn o winner).addable = [] := List.isEmpty_iff.1 hempty
          rw [haddable, extendSteps_nil]
        · exact if_pos hempty
      rw [afterwards_of_isKnown hfind hknown, hextend, ← Option.some.inj hmissing]
      rfl
    rw [hafter]
    exact ⟨w, fun elapsed => ⟨elapsed, ensure_of_settled hsettled⟩, hw, rfl⟩

end Defaults

/-- A request that runs no statement leaves the write of the other due. -/
theorem ensure_spared (hspared : ¬ (w.store.Responds o ∧
      r.settled? o (Column.sort r.required) w.definition = none ∧
        r.Acts o (w.store.tables.columnsAt (r.place o)))) :
    ∃ answer w', RunsTo (r.ensure o) w answer w' ∧ w'.store.otherWrites = w.store.otherWrites := by
  cases hsettled : r.settled? o (Column.sort r.required) w.definition with
  | some missing =>
    exact ⟨.ok missing, w, fun elapsed => ⟨elapsed, ensure_of_settled hsettled⟩, rfl⟩
  | none =>
    by_cases hresponds : w.store.Responds o
    · have hacts : ¬ r.Acts o (w.store.tables.columnsAt (r.place o)) :=
        fun hacts => hspared ⟨hresponds, hsettled, hacts⟩
      obtain ⟨answer, hrun⟩ := change_spared (w := r.asked o w) rfl hacts
      exact ⟨answer, r.asked o w, ensure_asks hsettled ((refresh_runs hresponds).bind hrun), rfl⟩
    · obtain ⟨e, hrun⟩ := refresh_fails (r := r) hresponds
      exact ⟨.error e, w, ensure_asks hsettled hrun.bind_error, rfl⟩

/-- A request to create a table by a statement that cannot be read gives up all columns, whatever
another writer makes of the table. -/
theorem ensure_unreadable {sql : String} (hw : w.store.IsContested o (r.place o) winner)
    (hstored : w.store.tables.columnsAt (r.place o) = [])
    (hsettled : r.settled? o (Column.sort r.required) w.definition = none)
    (hcreate : r.createTemplates = [template])
    (hfits : Identifier.fits o.identifierMaxBytes r.table = true) (hgained : r.gained o [] ≠ [])
    (hrender : template.render (r.context o (r.gained o []) (r.gained o [])) = .ok sql)
    (hread : Sql.statements? sql = none) :
    Reaches o (r.ensure o) w (.ok (Column.sort r.required)) w.landed.store.tables := by
  rw [← gapOn_addable] at hrender
  have hlands : Lands (r.create o (Column.sort r.required) (r.gapOn o [])) (r.asked o w) :=
    create_lands (asked_contested hw) hcreate hrender
  obtain ⟨w', hrun, hquiet, htables⟩ := hlands.reaches
    (create_unreadable (asked_contested hw).quiet hcreate hrender hread)
  have hdefinition : (r.asked o w).definition = .ofColumns o [] := hstored ▸ rfl
  have hchange := change_of_create hdefinition rfl (by simp [hcreate]) hfits hgained hrun
  exact ⟨w', ensure_asks hsettled ((refresh_runs hw.responds).bind hchange), hquiet,
    htables.trans (tables_landed_asked hw)⟩

/-- Columns of types with a spelling make statements that can be read; a tag table has a key. -/
theorem isReadable (htypes : ∀ c ∈ r.required, ∀ s, c.type ≠ .other s)
    (hcreate : r.createTemplates = [.createTable] ∨
      r.createTemplates = [.createTagTable] ∧ ∃ c ∈ r.gained o [], c.role = .tagId) :
    r.IsReadable o stored winner where
  creation _ hgained template htemplate sql hrender := by
    have htypes : ∀ c ∈ r.gained o [], ∀ s, c.type ≠ .other s :=
      fun c hc => htypes c (gained_subset hc)
    rcases hcreate with hcreate | ⟨hcreate, key, hkey, hrole⟩
    · obtain rfl : template = .createTable := by simpa [hcreate] using htemplate
      simp [Template.statements?_createTable hgained htypes hrender]
    · obtain rfl : template = .createTagTable := by simpa [hcreate] using htemplate
      have hkeys : Template.keyColumns (r.gained o []) ≠ [] :=
        List.ne_nil_of_mem (List.mem_filter.2 ⟨hkey, by simp [hrole]⟩)
      simp [Template.statements?_createTagTable hgained htypes hrender hkeys]
  addition _ c hc _ := by
    have htype := htypes c (gained_subset hc)
    simp [Template.statements?_addColumn (c := r.context o [c] []) rfl htype (render_addition c [])]

end Request

namespace Manager

variable {o : Options} {r : Request} {winner : List StoredColumn}

/-- The default templates, as they are worked with. -/
theorem exists_defaults
    (hcreate : Options.readTemplates [defaultCreateTemplate] = .ok r.createTemplates ∨
      Options.readTemplates [defaultTagTableCreateTemplate] = .ok r.createTemplates)
    (hadd : Options.readTemplates [defaultAddColumnTemplate] = .ok r.addColumnTemplates ∨
      r.addColumnTemplates = []) :
    ∃ template, (template = .createTable ∨ template = .createTagTable) ∧
      r.createTemplates = [template] ∧
        (r.addColumnTemplates = [.addColumn] ∨ r.addColumnTemplates = []) := by
  obtain ⟨htable, htagTable, hcolumn⟩ := Options.readTemplates_default
  have hadd := hadd.imp_left fun hadd => (Except.ok.inj (hcolumn.symm.trans hadd)).symm
  rcases hcreate with hcreate | hcreate
  · exact ⟨_, .inl rfl, (Except.ok.inj (htable.symm.trans hcreate)).symm, hadd⟩
  · exact ⟨_, .inr rfl, (Except.ok.inj (htagTable.symm.trans hcreate)).symm, hadd⟩

section Race

variable (m : Manager MemoryStore)
  (hcreate : Options.readTemplates [defaultCreateTemplate] = .ok r.createTemplates ∨
    Options.readTemplates [defaultTagTableCreateTemplate] = .ok r.createTemplates)
  (hadd : Options.readTemplates [defaultAddColumnTemplate] = .ok r.addColumnTemplates ∨
    r.addColumnTemplates = [])
  (hnoNext : m.store.nextFailures = []) (hnoText : m.store.textFailures = [])
  (hfits : Identifier.fits o.identifierMaxBytes r.table = true)
  (hnames : (r.required.map Column.name).Nodup)
  (hwinner : IsWinner o (m.store.tables.columnsAt (r.place o)) winner)
  (hreadable : r.IsReadable o (m.store.tables.columnsAt (r.place o)) winner)
  (hdue : m.store.otherWrites = [(r.place o, winner)])
include hcreate hadd hnoNext hnoText hfits hnames hwinner hreadable hdue

/-- The write of the other lands before the first statement of the request. -/
theorem ensure_lands (hresponds : m.store.Responds o)
    (hsettled : r.settled? o (Column.sort r.required) (m.cache.definition r.table) = none)
    (hacts : r.Acts o (m.store.tables.columnsAt (r.place o))) :
    (m.ensure o r).1 = .ok (r.afterwards o m.store.landWrite.tables).1 ∧
      (m.ensure o r).2.store.tables = (r.afterwards o m.store.landWrite.tables).2 ∧
        (m.ensure o r).2.store.otherWrites = [] := by
  obtain ⟨template, htemplate, hcreate, hadd⟩ := exists_defaults hcreate hadd
  obtain ⟨w', hrun, hquiet, htables⟩ := Request.ensure_races
    (w := { store := m.store, definition := m.cache.definition r.table }) htemplate hcreate hadd
    hnames hwinner hfits hreadable hacts ⟨hresponds, hnoNext, hnoText, hdue⟩ rfl hsettled
  obtain ⟨_, hensure⟩ := ensure_of_runsTo hrun
  rw [hensure]
  exact ⟨rfl, htables, hquiet.noWrites⟩

/-- With the default templates, whether or not columns are added to tables that are there, a
request that loses a race ends like a request that finds the winner in place, be it with what was
known before, with nothing known, or with what is to be known of the winner: the answer is the
same, and so are the columns of all tables. -/
theorem ensure_race (hlanded : (m.ensure o r).2.store.otherWrites = []) (m' : Manager MemoryStore)
    (hbehind : m'.store = m.store.landWrite)
    (hcache : m'.cache.definition r.table = m.cache.definition r.table ∨
      m'.cache.definition r.table = .unknown ∨
        m'.cache.definition r.table = .ofStored o (some winner)) :
    ∃ missing, (m.ensure o r).1 = .ok missing ∧ (m'.ensure o r).1 = .ok missing ∧
      (m.ensure o r).2.store.tables = (m'.ensure o r).2.store.tables := by
  by_cases hruns : m.store.Responds o ∧
      r.settled? o (Column.sort r.required) (m.cache.definition r.table) = none ∧
        r.Acts o (m.store.tables.columnsAt (r.place o))
  · obtain ⟨hresponds, hsettled, hacts⟩ := hruns
    obtain ⟨hanswer, htables, _⟩ := ensure_lands m hcreate hadd hnoNext hnoText hfits hnames hwinner
      hreadable hdue hresponds hsettled hacts
    obtain ⟨template, htemplate, hcreate, hadd⟩ := exists_defaults hcreate hadd
    have hcontested : m.store.IsContested o (r.place o) winner :=
      ⟨hresponds, hnoNext, hnoText, hdue⟩
    have hknown : r.settled? o (Column.sort r.required) (m'.cache.definition r.table) = none ∨
        m'.cache.definition r.table = .ofColumns o winner := by
      rcases hcache with hcache | hcache | hcache
      · exact .inl (hcache ▸ hsettled)
      · exact .inl (hcache ▸ Request.settled?_unknown _)
      · exact .inr hcache
    obtain ⟨w', hrun, _, htables'⟩ := Request.ensure_reaches
      (w := { store := m'.store, definition := m'.cache.definition r.table }) htemplate hcreate hadd
      hnames hwinner hfits hreadable hacts (hbehind ▸ hcontested.quiet)
      (hbehind ▸ hcontested.find?_landed) hknown
    obtain ⟨_, hensure⟩ := ensure_of_runsTo hrun
    rw [hanswer, htables, hensure, ← hbehind]
    exact ⟨_, rfl, rfl, htables'.symm⟩
  · -- a request that runs no statement leaves the write due
    obtain ⟨answer, w', hrun, hspared⟩ := Request.ensure_spared
      (w := { store := m.store, definition := m.cache.definition r.table }) hruns
    obtain ⟨_, hensure⟩ := ensure_of_runsTo hrun
    rw [hensure] at hlanded
    have hnil : m.store.otherWrites = [] := hspared.symm.trans hlanded
    rw [hdue] at hnil
    cases hnil

end Race

/-- A store on which another writer is about to change the table of hosts. -/
def contested (t : Catalog) (winner : List StoredColumn) : Manager MemoryStore where
  store := { tables := t, otherWrites := [(("", "cpu"), winner)] }

/-- The same once the other writer was there. -/
def behind (t : Catalog) (winner : List StoredColumn) : Manager MemoryStore where
  store := (contested t winner).store.landWrite

def hostRequest (required : List Column) : Request where
  table := "cpu"
  required
  createTemplates := [.createTable]
  addColumnTemplates := [.addColumn]
  metricTable := "cpu"
  tagTable := none

def times : Catalog :=
  KeyMap.empty.insert ("", "cpu") [{ name := "time", type := "timestamp without time zone" }]

/-- The table of times with a column that cannot take numbers and with a tag. -/
def namedTimes : List StoredColumn :=
  [{ name := "time", type := "timestamp without time zone" }, { name := "usage", type := "text" },
    { name := "host", type := "text", comment := some tagComment }]

/-- A request for the columns, and for one that the other writer did not know. -/
def hostUsage : Request :=
  hostRequest [⟨"time", .time, .timestamp⟩, ⟨"host", .tag, .text⟩, ⟨"region", .tag, .text⟩,
    ⟨"usage", .field, .doublePrecision⟩]

theorem ensure_race_hostUsage : ∃ missing,
    ((contested times namedTimes).ensure .plain hostUsage).1 = .ok missing ∧
      ((behind times namedTimes).ensure .plain hostUsage).1 = .ok missing ∧
        ((contested times namedTimes).ensure .plain hostUsage).2.store.tables =
          ((behind times namedTimes).ensure .plain hostUsage).2.store.tables := by
  have hcreate := Options.readTemplates_default.1
  have hadd := Options.readTemplates_default.2.2
  have hwinner : IsWinner .plain (times.columnsAt ("", "cpu")) namedTimes :=
    ⟨by decide, by decide, by decide⟩
  have htypes : ∀ c ∈ hostUsage.required, ∀ s, c.type ≠ .other s := by simp [hostUsage, hostRequest]
  have hreadable : hostUsage.IsReadable .plain (times.columnsAt ("", "cpu")) namedTimes :=
    Request.isReadable htypes (.inl rfl)
  have hgained : hostUsage.gained .plain (times.columnsAt ("", "cpu")) =
      [⟨"host", .tag, .text⟩, ⟨"region", .tag, .text⟩, ⟨"usage", .field, .doublePrecision⟩] := by
    cbv
  have hacts : hostUsage.Acts .plain (times.columnsAt ("", "cpu")) :=
    ⟨by simp [hgained], .inr (by simp [hostUsage, hostRequest])⟩
  obtain ⟨_, _, hlanded⟩ := ensure_lands (o := .plain) (r := hostUsage) (contested times namedTimes)
    (.inl hcreate) (.inl hadd) rfl rfl (by decide) (by decide) hwinner hreadable rfl
    ⟨rfl, by decide⟩ (Request.settled?_unknown _) hacts
  exact ensure_race (o := .plain) (r := hostUsage) (contested times namedTimes) (.inl hcreate)
    (.inl hadd) rfl rfl (by decide) (by decide) hwinner hreadable rfl hlanded
    (behind times namedTimes) rfl (.inl rfl)

/-- A request for a column of a type that is no type. -/
def brokenType : Request := hostRequest [⟨"time", .time, .timestamp⟩, ⟨"usage", .field, .other "'"⟩]

/-- The table that has the column, if there were such a type. -/
def brokenTimes : List StoredColumn :=
  [{ name := "time", type := "timestamp without time zone" }, { name := "usage", type := "'" }]

theorem ensure_brokenType :
    ((contested .empty brokenTimes).ensure .plain brokenType).1 = .ok brokenType.required ∧
      ((contested .empty brokenTimes).ensure .plain brokenType).2.store.otherWrites = [] := by
  have hw : (contested .empty brokenTimes).store.IsContested .plain ("", "cpu") brokenTimes :=
    ⟨⟨rfl, by decide⟩, rfl, rfl, rfl⟩
  have hsort : Column.sort brokenType.required = brokenType.required := by cbv
  have hgained : brokenType.gained .plain [] = brokenType.required := by cbv
  have hread :
      Sql.statements? (brokenType.creation .plain (brokenType.gained .plain [])) = none := by
    rw [hgained]
    decide +kernel
  obtain ⟨w', hrun, hquiet, _⟩ := Request.ensure_unreadable (r := brokenType)
    (w := { store := (contested .empty brokenTimes).store, definition := .unknown }) hw rfl
    (Request.settled?_unknown _) rfl (by decide) (hgained ▸ List.cons_ne_nil _ _)
    (Request.render_creation _ _) hread
  rw [hsort] at hrun
  obtain ⟨_, hensure⟩ := ensure_of_runsTo (m := contested .empty brokenTimes) hrun
  rw [hensure]
  exact ⟨rfl, hquiet.noWrites⟩

def texts : List StoredColumn :=
  [{ name := "time", type := "timestamp without time zone" }, { name := "a", type := "text" }]

/-- The same with a second column of one name. -/
def twice : List StoredColumn := texts ++ [{ name := "a", type := "bigint" }]

def moreTexts : Request :=
  hostRequest [⟨"time", .time, .timestamp⟩, ⟨"a", .field, .text⟩, ⟨"b", .field, .text⟩]

/-- The other writer makes a second column of one name. -/
def textsTwice : Manager MemoryStore := contested (KeyMap.empty.insert ("", "cpu") texts) twice

/-- The same once the other writer was there. -/
def behindTwice : Manager MemoryStore := behind (KeyMap.empty.insert ("", "cpu") texts) twice

theorem extendSteps_moreTexts {t : Catalog} (hfind : t.find? ("", "cpu") = some twice) :
    (moreTexts.extendSteps .plain [⟨"b", .field, .text⟩] t).1 = [] := by
  have hstep := Request.tryStep_new .plain moreTexts (c := ⟨"b", .field, .text⟩) (by simp) (by simp)
    hfind (by decide)
  have hadd : moreTexts.addColumnTemplates.isEmpty = false := rfl
  simp [Request.extendSteps, Request.addSteps, hstep, hadd]

theorem ensure_textsTwice : (textsTwice.ensure .plain moreTexts).1 = .ok [] ∧
    (textsTwice.ensure .plain moreTexts).2.store.otherWrites = [] := by
  have hw : textsTwice.store.IsContested .plain (moreTexts.place .plain) twice :=
    ⟨⟨rfl, by decide⟩, rfl, rfl, rfl⟩
  have hasked := Request.asked_contested (w := { store := textsTwice.store }) hw
  have hgap : moreTexts.gapOn .plain texts = ⟨[⟨"b", .field, .text⟩], []⟩ := by cbv
  have hextend := (Request.extend_lands (g := moreTexts.gapOn .plain texts) hasked rfl
    (by simp [hgap])).reaches (Request.extend_reaches hasked.quiet (.inl rfl) _)
  have hadded := extendSteps_moreTexts hasked.find?_landed
  have hstored : textsTwice.store.tables.columnsAt (moreTexts.place .plain) = texts := by decide
  obtain ⟨w', hrun, hquiet, _⟩ := Request.ensure_of_extend (w := { store := textsTwice.store })
    hw.responds rfl hstored (by decide) hextend
  obtain ⟨_, hensure⟩ := ensure_of_runsTo (m := textsTwice) hrun
  refine ⟨?_, by rw [hensure]; exact hquiet.noWrites⟩
  rw [hensure, hgap]
  exact (congrArg (fun cs => Except.ok (Column.sort cs)) hadded).trans (by cbv)

theorem ensure_behindTwice :
    (behindTwice.ensure .plain moreTexts).1 = .ok [⟨"a", .field, .text⟩] := by
  have hw : behindTwice.store.IsQuiet .plain := ⟨⟨rfl, rfl, rfl⟩, rfl, by decide⟩
  have hgap : moreTexts.gapOn .plain twice =
      ⟨[⟨"b", .field, .text⟩], [⟨"a", .field, .text⟩]⟩ := by cbv
  have hextend := Request.extend_reaches (r := moreTexts)
    (w := moreTexts.asked .plain { store := behindTwice.store }) (hw.change _ _ _) (.inl rfl)
    (moreTexts.gapOn .plain twice)
  have hfind : behindTwice.store.tables.find? ("", "cpu") = some twice := by decide
  have hadded := extendSteps_moreTexts hfind
  have hstored : behindTwice.store.tables.columnsAt (moreTexts.place .plain) = twice := by decide
  obtain ⟨w', hrun, _⟩ := Request.ensure_of_extend (w := { store := behindTwice.store })
    hw.responds rfl hstored (by decide) hextend
  obtain ⟨_, hensure⟩ := ensure_of_runsTo (m := behindTwice) hrun
  rw [hensure, hgap]
  exact (congrArg (fun cs => Except.ok (Column.sort (⟨"a", .field, .text⟩ :: cs))) hadded).trans
    (by cbv)

/-- A request in a race does not always end like one behind the winner: a creation that cannot be
read is not taken for a table that is there, and of columns that share a name the request may know
another one than the winner leaves it. -/
theorem ensure_not_behind :
    (IsWinner .plain [] brokenTimes ∧
      ((contested .empty brokenTimes).ensure .plain brokenType).2.store.otherWrites = [] ∧
        ((contested .empty brokenTimes).ensure .plain brokenType).1 = .ok brokenType.required ∧
          ((behind .empty brokenTimes).ensure .plain brokenType).1 = .ok []) ∧
    (texts ⊆ twice ∧ (∀ s ∈ twice, Identifier.fits Options.plain.identifierMaxBytes s.name = true) ∧
      (textsTwice.ensure .plain moreTexts).2.store.otherWrites = [] ∧
        (textsTwice.ensure .plain moreTexts).1 = .ok [] ∧
          (behindTwice.ensure .plain moreTexts).1 = .ok [⟨"a", .field, .text⟩]) := by
  have hbehind : ((behind .empty brokenTimes).ensure .plain brokenType).1 = .ok [] := by cbv
  have hwinner : IsWinner .plain [] brokenTimes := ⟨by decide, by decide, by decide⟩
  obtain ⟨hbroken, hbrokenLanded⟩ := ensure_brokenType
  obtain ⟨htwice, htwiceLanded⟩ := ensure_textsTwice
  exact ⟨⟨hwinner, hbrokenLanded, hbroken, hbehind⟩, by decide, by decide, htwiceLanded, htwice,
    ensure_behindTwice⟩

end Manager

end MetricTables
