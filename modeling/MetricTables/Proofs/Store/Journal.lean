import MetricTables.Proofs.KeyMap
import MetricTables.Proofs.Store.Catalog
import MetricTables.Proofs.Store.Trace

/-!
# The journal of a store

A store in memory notes the texts that took effect. The notes say all that there is to know of
its tables but for comments: a new store on which the texts are executed again gets the same
tables, and every one of the texts takes effect, whatever failed between them.

## Main definitions

* `Catalog.uncommented` — the tables with their columns, without the comments.
* `MemoryStore.Action`, `MemoryStore.after` — what happens to a store, and the store after it.
* `MemoryStore.acceptedAll` — the texts of a run whose executions succeed.
* `MemoryStore.executeAll` — the texts of a list, one after the other.
* `MemoryStore.IsNoted` — the journal of a store says what its tables are.

## Main statements

* `Catalog.run_uncommented` — no text depends on comments.
* `isNoted_act`, `isNoted_after` — the journal stays right, action by action.
* `executeAll_executed` — the journal leads to the tables of the store.
-/

namespace MetricTables

/-! ## Tables without comments -/

def StoredColumn.uncommented (c : StoredColumn) : StoredColumn := { c with comment := none }

namespace Catalog

/-- Columns without their comments. -/
def plainColumns (columns : List StoredColumn) : List StoredColumn :=
  columns.map StoredColumn.uncommented

/-- The tables with the names and types of their columns, in order, without the comments. -/
def uncommented (t : Catalog) : Catalog := t.map plainColumns

variable {t t' : Catalog} {table : String}

theorem find?_uncommented (t : Catalog) (p : TablePlace) :
    t.uncommented.find? p = (t.find? p).map plainColumns := KeyMap.find?_map t plainColumns p

theorem contains_uncommented (t : Catalog) (p : TablePlace) :
    t.uncommented.contains p = t.contains p := by
  rw [KeyMap.contains, find?_uncommented, Option.isSome_map, KeyMap.contains]

theorem uncommented_insert (t : Catalog) (p : TablePlace) (columns : List StoredColumn) :
    uncommented (t.insert p columns) = t.uncommented.insert p (plainColumns columns) :=
  KeyMap.map_insert t plainColumns p columns

/-- A name is taken or not, whatever the comments are. -/
theorem hasColumn_plainColumns (columns : List StoredColumn) (name : String) :
    hasColumn (plainColumns columns) name = hasColumn columns name := by
  rw [hasColumn, plainColumns, List.any_map]
  rfl

/-- A fold goes on as it went if each step does. -/
theorem foldlM_map {α β : Type} {f : α → β → Except StoreError α} {g : α → α}
    (hstep : ∀ a b, f (g a) b = (f a b).map g) (bs : List β) (a : α) :
    bs.foldlM f (g a) = (bs.foldlM f a).map g := by
  induction bs generalizing a with
  | nil => rfl
  | cons b bs ih =>
    rw [List.foldlM_cons, List.foldlM_cons, hstep]
    cases f a b with
    | error e => rfl
    | ok a' => exact ih a'

theorem change_plainColumns (columns : List StoredColumn) (c : Sql.TableChange) :
    change table (plainColumns columns) c = (change table columns c).map plainColumns := by
  cases c with
  | other word => rfl
  | addColumn ifNotExists d =>
    rw [change, change, hasColumn_plainColumns]
    split
    · cases ifNotExists <;> rfl
    · simp [Except.map, plainColumns, StoredColumn.uncommented, StoredColumn.ofDefinition]

/-- New columns have no comments. -/
theorem plainColumns_newColumns (definitions : List Sql.ColumnDefinition) :
    (newColumns definitions).map plainColumns = newColumns definitions := by
  refine (foldlM_map (fun columns d => ?_) definitions []).symm
  dsimp only
  rw [hasColumn_plainColumns]
  split
  · rfl
  · simp [Except.map, plainColumns, StoredColumn.uncommented, StoredColumn.ofDefinition]

theorem createTable_uncommented (t : Catalog) (name : Sql.QualifiedName) (ifNotExists : Bool)
    (definitions : List Sql.ColumnDefinition) :
    t.uncommented.createTable name ifNotExists definitions =
      (t.createTable name ifNotExists definitions).map uncommented := by
  unfold createTable
  cases place name with
  | error e => rfl
  | ok p =>
    simp only [bind, Except.bind, contains_uncommented]
    cases t.contains p with
    | true => cases ifNotExists <;> rfl
    | false =>
      cases definitions.isEmpty with
      | true => rfl
      | false =>
        cases hcolumns : newColumns definitions with
        | error e => rfl
        | ok columns =>
          have hplain := plainColumns_newColumns definitions
          rw [hcolumns] at hplain
          have hplain : plainColumns columns = columns := Except.ok.inj hplain
          show Except.ok (t.uncommented.insert p columns) = .ok (uncommented (t.insert p columns))
          rw [uncommented_insert, hplain]

theorem alterTable_uncommented (t : Catalog) (name : Sql.QualifiedName)
    (changes : List Sql.TableChange) :
    t.uncommented.alterTable name changes = (t.alterTable name changes).map uncommented := by
  unfold alterTable
  cases place name with
  | error e => rfl
  | ok p =>
    simp only [bind, Except.bind, find?_uncommented]
    cases t.find? p with
    | none => rfl
    | some columns =>
      simp only [Option.map_some, foldlM_map change_plainColumns]
      cases changes.foldlM (change p.2) columns with
      | error e => rfl
      | ok changed => exact congrArg Except.ok (uncommented_insert t p changed).symm

/-- Statements neither read nor write comments. -/
theorem apply_uncommented (t : Catalog) (statement : Sql.Statement) :
    t.uncommented.apply statement = (t.apply statement).map uncommented := by
  cases statement with
  | createTable name ifNotExists definitions => exact createTable_uncommented t ..
  | alterTable name changes => exact alterTable_uncommented t ..
  | dropTable ifExists names shown => rfl
  | query references shown => rfl
  | other shown => rfl

/-- What a text does has nothing to do with comments. -/
theorem run_uncommented (t : Catalog) (sql : String) (g : Sql.Dialect) :
    t.uncommented.run sql g = (t.run sql g).map uncommented := by
  unfold run
  cases g.read sql with
  | error reason => rfl
  | ok statements => exact foldlM_map apply_uncommented statements t

theorem plainColumns_modify (columns : List StoredColumn) (i : Nat) (text : String) :
    plainColumns (columns.modify i fun c => { c with comment := some text }) =
      plainColumns columns := by
  refine List.ext_getElem? fun j => ?_
  rw [plainColumns, plainColumns, List.getElem?_map, List.getElem?_map, List.getElem?_modify]
  cases columns[j]? with
  | none => rfl
  | some c => by_cases hij : i = j <;> simp [hij, StoredColumn.uncommented]

/-- A comment changes nothing but comments. -/
theorem uncommented_comment {p : TablePlace} {column text : String}
    (h : t.comment p column text = .ok t') : t'.uncommented = t.uncommented := by
  unfold comment at h
  split at h
  · cases h
  next columns hfind =>
    split at h
    · cases h
    next i _ =>
      cases h
      rw [uncommented_insert, plainColumns_modify]
      refine KeyMap.insert_of_find? ?_
      rw [find?_uncommented, hfind, Option.map_some]

end Catalog

/-! ## Runs of a store -/

namespace MemoryStore

variable {g : Sql.Dialect}

/-- What happens to a store: it is called, or it is planned how calls are to fail. -/
inductive Action where
  | call (c : StoreCall)
  | setOffline (isOffline : Bool)
  | failNext (e : StoreError)
  | failContaining (piece : String) (e : StoreError)

def called (s : MemoryStore g) : StoreCall → MemoryStore g
  | .columns namespaceName table => (Store.columns namespaceName table s).2
  | .execute sql => (Store.execute sql s).2
  | .comment namespaceName table column text =>
    (Store.comment namespaceName table column text s).2

def act (s : MemoryStore g) : Action → MemoryStore g
  | .call c => s.called c
  | .setOffline isOffline => s.setOffline isOffline
  | .failNext e => s.failNext e
  | .failContaining piece e => s.failContaining piece e

def after (s : MemoryStore g) (actions : List Action) : MemoryStore g := actions.foldl act s

/-- What is to be noted of a text, by the answer to its execution. -/
def note (sql : String) : Except StoreError Unit → List String
  | .ok _ => [sql]
  | .error _ => []

/-- The text of an action that is an execution and succeeds. -/
def accepted (s : MemoryStore g) : Action → List String
  | .call (.execute sql) => note sql (s.execute sql).1
  | _ => []

/-- The texts of a run whose executions succeed, in order. -/
def acceptedAll (s : MemoryStore g) : List Action → List String
  | [] => []
  | action :: actions => s.accepted action ++ (s.act action).acceptedAll actions

/-- Executes texts one after the other, with the answer to each. -/
def executeAll (s : MemoryStore g) : List String → List (Except StoreError Unit) × MemoryStore g
  | [] => ([], s)
  | sql :: rest =>
    let (answer, s) := s.execute sql
    let (answers, s) := s.executeAll rest
    (answer :: answers, s)

/-- The journal says what the tables are, and nobody else is to write. -/
structure IsNoted (s : MemoryStore g) : Prop where
  writes : s.otherWrites = []
  tables : s.executed.foldlM (fun (t : Catalog) sql => t.run sql g) .empty =
    .ok s.tables.uncommented

variable {s s' : MemoryStore g}

theorem landWrite_of_nil (h : s.otherWrites = []) : s.landWrite = s := by rw [landWrite, h]

theorem isNoted_new (latency : Duration) : IsNoted ({ latency } : MemoryStore g) := ⟨rfl, rfl⟩

/-- What changes neither tables nor journal keeps the journal right. -/
theorem IsNoted.of_eq (h : s.IsNoted) (hwrites : s'.otherWrites = s.otherWrites)
    (htables : s'.tables.uncommented = s.tables.uncommented)
    (hexecuted : s'.executed = s.executed) :
    s'.IsNoted where
  writes := hwrites.trans h.writes
  tables := by rw [hexecuted, htables, h.tables]

theorem isNoted_columns (h : s.IsNoted) (p : TablePlace) : (s.columns p).2.IsNoted := by
  unfold columns
  split
  · exact h
  · exact h.of_eq rfl rfl rfl

/-- A text that takes effect is noted, and does to the tables without comments what it did. -/
theorem isNoted_runText (h : s.IsNoted) (sql : String) : (s.runText sql).2.IsNoted := by
  unfold runText
  split
  · exact h
  next tables hrun =>
    refine ⟨h.writes, ?_⟩
    have hplain := Catalog.run_uncommented s.tables sql g
    rw [hrun] at hplain
    simp only [List.foldlM_append, h.tables, List.foldlM_cons, List.foldlM_nil, bind, Except.bind,
      hplain, Except.map, pure, Except.pure]

/-- A text that is made to fail leaves no trace. -/
theorem isNoted_execute (h : s.IsNoted) (sql : String) : (s.execute sql).2.IsNoted := by
  have hland : s.landWrite = s := landWrite_of_nil h.writes
  unfold execute
  split
  · exact h
  · rw [hland, executeUndisturbed]
    split
    · exact h.of_eq rfl rfl rfl
    · split
      · exact h
      · exact isNoted_runText h sql

theorem isNoted_comment (h : s.IsNoted) (p : TablePlace) (column text : String) :
    (s.comment p column text).2.IsNoted := by
  unfold comment
  split
  · exact h
  · split
    · exact h
    next tables hcomment => exact h.of_eq rfl (Catalog.uncommented_comment hcomment) rfl

/-- Every action keeps the journal right. -/
theorem isNoted_act (h : s.IsNoted) (action : Action) : (s.act action).IsNoted := by
  cases action with
  | call c =>
    cases c with
    | columns namespaceName table => exact isNoted_columns h (namespaceName, table)
    | execute sql => exact isNoted_execute h sql
    | comment namespaceName table column text =>
      exact isNoted_comment h (namespaceName, table) column text
  | setOffline isOffline => exact h.of_eq rfl rfl rfl
  | failNext e => exact h.of_eq rfl rfl rfl
  | failContaining piece e => exact h.of_eq rfl rfl rfl

/-- Every run keeps the journal right. -/
theorem isNoted_after (h : s.IsNoted) (actions : List Action) : (s.after actions).IsNoted := by
  induction actions generalizing s with
  | nil => exact h
  | cons action actions ih => exact ih (isNoted_act h action)

theorem executed_runText (s : MemoryStore g) (sql : String) :
    (s.runText sql).2.executed = s.executed ++ note sql (s.runText sql).1 := by
  unfold runText
  split
  · exact (List.append_nil _).symm
  · rfl

theorem executed_executeUndisturbed (s : MemoryStore g) (sql : String) :
    (s.executeUndisturbed sql).2.executed =
      s.executed ++ note sql (s.executeUndisturbed sql).1 := by
  unfold executeUndisturbed
  split
  · exact (List.append_nil _).symm
  · cases s.textFailure? sql with
    | some e => exact (List.append_nil _).symm
    | none => exact executed_runText s sql

/-- An execution is noted if it succeeds, and otherwise not. -/
theorem executed_execute (s : MemoryStore g) (sql : String) :
    (s.execute sql).2.executed = s.executed ++ note sql (s.execute sql).1 := by
  unfold execute
  split
  · exact (List.append_nil _).symm
  · rw [executed_executeUndisturbed, landWrite_executed]

/-- Nothing but executions is noted. -/
theorem executed_act (s : MemoryStore g) (action : Action) :
    (s.act action).executed = s.executed ++ s.accepted action := by
  cases action with
  | call c =>
    cases c with
    | columns namespaceName table =>
      show (s.columns (namespaceName, table)).2.executed = s.executed ++ []
      unfold columns
      split <;> simp
    | execute sql => exact executed_execute s sql
    | comment namespaceName table column text =>
      show (s.comment (namespaceName, table) column text).2.executed = s.executed ++ []
      unfold comment
      split
      · simp
      · split <;> simp
  | setOffline isOffline => exact (List.append_nil _).symm
  | failNext e => exact (List.append_nil _).symm
  | failContaining piece e => exact (List.append_nil _).symm

/-- The journal of a run lists its successful executions. -/
theorem executed_after (s : MemoryStore g) (actions : List Action) :
    (s.after actions).executed = s.executed ++ s.acceptedAll actions := by
  induction actions generalizing s with
  | nil => exact (List.append_nil _).symm
  | cons action actions ih =>
    show ((s.act action).after actions).executed = _
    rw [ih, executed_act, acceptedAll, List.append_assoc]

/-- On a store that is up, texts that take effect on the tables are executed one by one. -/
theorem executeAll_of_foldlM {texts : List String} {tables : Catalog} (hup : s.IsUp)
    (hwrites : s.otherWrites = [])
    (h : texts.foldlM (fun t sql => t.run sql g) s.tables = .ok tables) :
    s.executeAll texts =
      (texts.map fun _ => .ok (), { s with tables, executed := s.executed ++ texts }) := by
  induction texts generalizing s with
  | nil =>
    cases h
    simp [executeAll]
  | cons sql texts ih =>
    obtain ⟨tables₁, hrun, hrest⟩ : ∃ tables₁, s.tables.run sql g = .ok tables₁ ∧
        texts.foldlM (fun t sql => t.run sql g) tables₁ = .ok tables := by
      rw [List.foldlM_cons] at h
      cases hrun : s.tables.run sql g with
      | error e => rw [hrun] at h; cases h
      | ok tables₁ => exact ⟨tables₁, rfl, by rwa [hrun] at h⟩
    have hland : s.landWrite = s := landWrite_of_nil hwrites
    have hexecute := execute_of_run hup (hland.symm ▸ hrun)
    rw [hland] at hexecute
    have hrest := ih (s := { s with tables := tables₁, executed := s.executed ++ [sql] })
      ⟨hup.online, hup.noNext, hup.noText⟩ hwrites hrest
    simp [executeAll, hexecute, hrest]

/-- After any run of a store on which nobody else writes, in whatever dialect it reads texts, the
journal lists the texts whose executions succeeded, each once and in order. Executed on a new store,
every one of them succeeds again, and the new store gets the same tables, without the comments, and
the same journal. -/
theorem executeAll_executed (g : Sql.Dialect) (latency : Duration) (actions : List Action) :
    let s : MemoryStore g := after { latency } actions
    s.executed = acceptedAll ({ latency } : MemoryStore g) actions ∧
      executeAll ({} : MemoryStore g) s.executed = (s.executed.map fun _ => .ok (),
        { tables := s.tables.uncommented, executed := s.executed }) :=
  ⟨executed_after { latency } actions,
    executeAll_of_foldlM ⟨rfl, rfl, rfl⟩ rfl (isNoted_after (isNoted_new latency) actions).tables⟩

end MemoryStore

end MetricTables
