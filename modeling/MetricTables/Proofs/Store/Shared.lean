import MetricTables.Store.Memory

/-!
# A store that others use too

A store in memory between the calls of which others act: they may change it in any way
just before a call, and their planned writes land before executions. Everything that they
did is noted, so that a run can be looked at under conditions on what others did in it.

## Main definitions

* `Catalog.Widens` — tables were only created and columns only appended.
* `SharedStore` — the store, the acts of others to come and those that happened.
* `SharedStore.Lawful` — others only widened tables and, if they are to be quiet, left tables
  and reach alone.

## Main statements

* `columns_drifts`, `execute_changes`, `comment_changes` — what one call does if others are
  lawful.
-/

namespace MetricTables

namespace Catalog

/-! ## Columns of places -/

/-- The columns at a place; none where no table is. -/
def columnsAt (t : Catalog) (p : TablePlace) : List StoredColumn := (t.find? p).getD []

theorem columnsAt_of_find? {t : Catalog} {p : TablePlace} {columns : List StoredColumn}
    (h : t.find? p = some columns) : t.columnsAt p = columns := by
  rw [columnsAt, h, Option.getD_some]

@[simp] theorem columnsAt_insert_self (t : Catalog) (p : TablePlace) (columns : List StoredColumn) :
    columnsAt (t.insert p columns) p = columns := by
  simp [columnsAt]

theorem columnsAt_insert_of_ne (t : Catalog) {p q : TablePlace} (h : q ≠ p)
    (columns : List StoredColumn) : columnsAt (t.insert p columns) q = t.columnsAt q := by
  simp [columnsAt, KeyMap.find?_insert_of_ne _ h]

/-- Tables are only created and columns only appended. -/
def Widens (t t' : Catalog) : Prop := ∀ p, t.columnsAt p <+: t'.columnsAt p

namespace Widens

variable {t t' t'' : Catalog}

theorem refl (t : Catalog) : t.Widens t := fun _ => List.prefix_rfl

theorem trans (h : t.Widens t') (h' : t'.Widens t'') : t.Widens t'' :=
  fun p => (h p).trans (h' p)

end Widens

end Catalog

/-! ## Calls of the store in memory -/

namespace MemoryStore

/-- Whether the store is online, and how long a call takes. -/
def reach (s : MemoryStore) : Bool × Duration := (s.isOffline, s.latency)

theorem columns_keeps (s : MemoryStore) (p : TablePlace) :
    (s.columns p).2.tables = s.tables ∧ (s.columns p).2.reach = s.reach := by
  unfold columns
  split <;> exact ⟨rfl, rfl⟩

/-- What a call did that is to change tables: it failed and changed nothing, or it changed
the tables. How the store is reached stays. -/
structure Changed (change : Catalog → Except StoreError Catalog) (s : MemoryStore)
    (r : Except StoreError Unit × MemoryStore) : Prop where
  reach_eq : r.2.reach = s.reach
  rejected : ∀ e, r.1 = .error e → r.2.tables = s.tables
  accepted : r.1 = .ok () → change s.tables = .ok r.2.tables ∧ s.isOffline = false

theorem runText_changed (s : MemoryStore) (sql : String) (h : s.isOffline = false) :
    Changed (fun t => t.run sql) s (s.runText sql) := by
  unfold runText
  split
  · exact ⟨rfl, fun _ _ => rfl, fun hok => nomatch hok⟩
  next tables hrun => exact ⟨rfl, fun _ he => (nomatch he), fun _ => ⟨hrun, h⟩⟩

theorem executeUndisturbed_changed (s : MemoryStore) (sql : String) (h : s.isOffline = false) :
    Changed (fun t => t.run sql) s (s.executeUndisturbed sql) := by
  unfold executeUndisturbed
  split
  · exact ⟨rfl, fun _ _ => rfl, fun hok => nomatch hok⟩
  · split
    · exact ⟨rfl, fun _ _ => rfl, fun hok => nomatch hok⟩
    · exact runText_changed s sql h

theorem comment_changed (s : MemoryStore) (p : TablePlace) (column text : String) :
    Changed (fun t => t.comment p column text) s (s.comment p column text) := by
  unfold comment
  split
  · exact ⟨rfl, fun _ _ => rfl, fun hok => nomatch hok⟩
  next hup =>
    split
    · exact ⟨rfl, fun _ _ => rfl, fun hok => nomatch hok⟩
    next tables htables =>
      exact ⟨rfl, fun _ he => (nomatch he), fun _ => ⟨htables, by simpa using hup⟩⟩

end MemoryStore

/-! ## Acts of others -/

/-- Something that others did to a store. -/
structure Act where
  before : MemoryStore
  after : MemoryStore

/-- A store in memory that others use too. -/
structure SharedStore where
  memory : MemoryStore
  /-- What others do just before each of the calls to come. -/
  turns : List (MemoryStore → MemoryStore) := []
  /-- What others did so far, oldest first. -/
  acts : List Act := []

namespace SharedStore

/-- Notes what others did to the store. -/
def note (s : SharedStore) (memory : MemoryStore) : SharedStore :=
  { s with memory, acts := s.acts ++ [⟨s.memory, memory⟩] }

/-- Lets others take their turn. -/
def takeTurn (s : SharedStore) : SharedStore :=
  match s.turns with
  | [] => s
  | f :: rest => { s.note (f s.memory) with turns := rest }

def call {α : Type} (f : MemoryStore → Except StoreError α × MemoryStore) (s : SharedStore) :
    Except StoreError α × SharedStore :=
  ((f s.memory).1, { s with memory := (f s.memory).2 })

/-- One execution. The write of others that lands in it is noted. -/
def execute (sql : String) (s : SharedStore) : Except StoreError Unit × SharedStore :=
  let s := s.takeTurn
  if s.memory.isOffline then (.error MemoryStore.offline, s)
  else (s.note s.memory.landWrite).call fun m => m.executeUndisturbed sql

instance : Store SharedStore where
  kind := Store.kind MemoryStore
  latency s := Store.latency s.memory
  columns namespaceName table s := s.takeTurn.call (Store.columns namespaceName table)
  execute := execute
  comment namespaceName table column text s :=
    s.takeTurn.call (Store.comment namespaceName table column text)

/-- If others take no turns, an execution is one of the store in memory. -/
theorem execute_of_turns_nil {s : SharedStore} (h : s.turns = []) (sql : String) :
    (Store.execute sql s).1 = (Store.execute sql s.memory).1 ∧
      (Store.execute sql s).2.memory = (Store.execute sql s.memory).2 := by
  have hturn : s.takeTurn = s := by rw [takeTurn, h]
  show (execute sql s).1 = (s.memory.execute sql).1 ∧
    (execute sql s).2.memory = (s.memory.execute sql).2
  cases hoffline : s.memory.isOffline <;>
    simp [execute, hturn, hoffline, MemoryStore.execute, call, note]

/-! ## What others may do -/

def tables (s : SharedStore) : Catalog := s.memory.tables

def reach (s : SharedStore) : Bool × Duration := s.memory.reach

end SharedStore

namespace Act

/-- Others only created tables and appended columns. -/
def Widens (a : Act) : Prop := a.before.tables.Widens a.after.tables

/-- Others neither wrote to the store nor changed how it is reached. -/
def Leaves (a : Act) : Prop :=
  a.after.tables = a.before.tables ∧ a.after.isOffline = a.before.isOffline ∧
    a.after.latency = a.before.latency

theorem Leaves.widens {a : Act} (h : a.Leaves) : a.Widens := by
  rw [Widens, h.1]
  exact .refl _

end Act

namespace SharedStore

variable {quiet : Prop} {s s' s'' : SharedStore}

/-- Others only widened tables and, if they are to be quiet, left tables and reach alone. -/
def Lawful (quiet : Prop) (s : SharedStore) : Prop := ∀ a ∈ s.acts, a.Widens ∧ (quiet → a.Leaves)

/-- Nothing of what happened is forgotten. -/
def Later (s s' : SharedStore) : Prop := s.acts <+: s'.acts

namespace Later

theorem refl (s : SharedStore) : s.Later s := List.prefix_rfl

theorem trans (h : s.Later s') (h' : s'.Later s'') : s.Later s'' := List.IsPrefix.trans h h'

theorem lawful (h : s.Later s') (hs : s'.Lawful quiet) : s.Lawful quiet :=
  fun a ha => hs a (h.subset ha)

end Later

/-- What may have changed while only others acted. -/
structure Drifts (quiet : Prop) (s s' : SharedStore) : Prop where
  widens : s.tables.Widens s'.tables
  tables_eq : quiet → s'.tables = s.tables
  reach_eq : quiet → s'.reach = s.reach

namespace Drifts

theorem refl (s : SharedStore) : Drifts quiet s s := ⟨.refl _, fun _ => rfl, fun _ => rfl⟩

theorem trans (h : Drifts quiet s s') (h' : Drifts quiet s' s'') : Drifts quiet s s'' where
  widens := h.widens.trans h'.widens
  tables_eq hq := (h'.tables_eq hq).trans (h.tables_eq hq)
  reach_eq hq := (h'.reach_eq hq).trans (h.reach_eq hq)

/-- Only tables and reach count. -/
theorem of_eq (htables : s'.tables = s.tables) (hreach : s'.reach = s.reach) :
    Drifts quiet s s' where
  widens := htables ▸ .refl _
  tables_eq _ := htables
  reach_eq _ := hreach

end Drifts

/-! ## Single events -/

theorem later_note (s : SharedStore) (m : MemoryStore) : s.Later (s.note m) :=
  List.prefix_append ..

theorem drifts_note {m : MemoryStore} (h : (s.note m).Lawful quiet) :
    Drifts quiet s (s.note m) := by
  obtain ⟨hwidens, hleaves⟩ := h ⟨s.memory, m⟩ (by simp [note])
  exact ⟨hwidens, fun hq => (hleaves hq).1, fun hq => Prod.ext (hleaves hq).2.1 (hleaves hq).2.2⟩

theorem later_takeTurn (s : SharedStore) : s.Later s.takeTurn := by
  unfold takeTurn
  split
  · exact .refl s
  · exact later_note s _

/-- What lawful users do in their turn takes nothing away. -/
theorem drifts_takeTurn (h : s.takeTurn.Lawful quiet) : Drifts quiet s s.takeTurn := by
  unfold takeTurn at h ⊢
  split
  · exact .refl s
  next f rest hturns =>
    rw [hturns] at h
    have hnote : Drifts quiet s (s.note (f s.memory)) := drifts_note h
    exact ⟨hnote.widens, hnote.tables_eq, hnote.reach_eq⟩

/-! ## Calls -/

/-- What a call did that is to change tables, with what others did before it. -/
structure Changes (quiet : Prop) (change : Catalog → Except StoreError Catalog)
    (s : SharedStore) (answer : Except StoreError Unit) (s' : SharedStore) : Prop where
  rejected : ∀ e, answer = .error e → Drifts quiet s s'
  accepted : answer = .ok () → ∃ s₁, Drifts quiet s s₁ ∧ change s₁.tables = .ok s'.tables ∧
    s'.reach = s₁.reach ∧ s'.memory.isOffline = false

theorem changes_of_changed {change : Catalog → Except StoreError Catalog} {s₁ : SharedStore}
    (h : Drifts quiet s s₁) {f : MemoryStore → Except StoreError Unit × MemoryStore}
    (hf : MemoryStore.Changed change s₁.memory (f s₁.memory)) :
    Changes quiet change s (s₁.call f).1 (s₁.call f).2 where
  rejected e he := h.trans (.of_eq (hf.rejected e he) hf.reach_eq)
  accepted hok := by
    obtain ⟨hchange, honline⟩ := hf.accepted hok
    refine ⟨s₁, h, hchange, hf.reach_eq, ?_⟩
    rw [← honline]
    exact congrArg Prod.fst hf.reach_eq

section Calls

variable (p : TablePlace) (s : SharedStore)

theorem later_columns : s.Later (Store.columns p.1 p.2 s).2 := later_takeTurn s

/-- A question for columns is answered from the tables as they are then. -/
theorem columns_drifts (h : (Store.columns p.1 p.2 s).2.Lawful quiet) :
    Drifts quiet s (Store.columns p.1 p.2 s).2 ∧
      ∀ found, (Store.columns p.1 p.2 s).1 = .ok found →
        found.getD [] = (Store.columns p.1 p.2 s).2.tables.columnsAt p := by
  have hturn : Drifts quiet s s.takeTurn := drifts_takeTurn h
  obtain ⟨htables, hreach⟩ := s.takeTurn.memory.columns_keeps p
  refine ⟨hturn.trans (.of_eq htables hreach), fun found hfound => ?_⟩
  change (s.takeTurn.memory.columns p).1 = .ok found at hfound
  show found.getD [] = (s.takeTurn.memory.columns p).2.tables.columnsAt p
  rw [htables]
  unfold MemoryStore.columns at hfound
  split at hfound
  · cases hfound
  · cases hfound
    rfl

/-- A store that is online answers. -/
theorem columns_of_online (h : (Store.columns p.1 p.2 s).2.memory.isOffline = false) :
    ∃ found, (Store.columns p.1 p.2 s).1 = .ok found := by
  have hreach := (s.takeTurn.memory.columns_keeps p).2
  have honline : s.takeTurn.memory.isOffline = false := by
    rw [← h]
    exact (congrArg Prod.fst hreach).symm
  refine ⟨s.takeTurn.memory.tables.find? p, ?_⟩
  show (s.takeTurn.memory.columns p).1 = _
  simp [MemoryStore.columns, honline]

theorem later_execute (sql : String) : s.Later (Store.execute sql s).2 := by
  show s.Later (execute sql s).2
  cases hoffline : s.takeTurn.memory.isOffline with
  | true => simpa [execute, hoffline] using later_takeTurn s
  | false =>
    have hland := later_note s.takeTurn s.takeTurn.memory.landWrite
    simpa [execute, hoffline, Later, call] using (later_takeTurn s).trans hland

/-- A text either takes effect as a whole, behind what others did, or changes nothing. -/
theorem execute_changes (sql : String) (h : (Store.execute sql s).2.Lawful quiet) :
    Changes quiet (fun t => t.run sql) s (Store.execute sql s).1 (Store.execute sql s).2 := by
  change (execute sql s).2.Lawful quiet at h
  show Changes quiet (fun t => t.run sql) s (execute sql s).1 (execute sql s).2
  cases hoffline : s.takeTurn.memory.isOffline with
  | true =>
    simp only [execute, hoffline, if_true] at h ⊢
    exact ⟨fun _ _ => drifts_takeTurn h, fun hok => nomatch hok⟩
  | false =>
    simp only [execute, hoffline, Bool.false_eq_true, if_false] at h ⊢
    have hland := drifts_note (s := s.takeTurn) h
    have hturn := drifts_takeTurn ((later_note s.takeTurn _).lawful h)
    exact changes_of_changed (hturn.trans hland)
      (MemoryStore.executeUndisturbed_changed _ sql (by simpa [note] using hoffline))

theorem later_comment (column text : String) :
    s.Later (Store.comment p.1 p.2 column text s).2 := later_takeTurn s

theorem comment_changes (column text : String)
    (h : (Store.comment p.1 p.2 column text s).2.Lawful quiet) :
    Changes quiet (fun t => t.comment p column text) s (Store.comment p.1 p.2 column text s).1
      (Store.comment p.1 p.2 column text s).2 :=
  changes_of_changed (drifts_takeTurn h) (MemoryStore.comment_changed _ p column text)

/-- If others are quiet, a store that is online puts a comment on a column that exists. -/
theorem comment_of_online {column text : String} {t : Catalog}
    (h : (Store.comment p.1 p.2 column text s).2.Lawful quiet) (hq : quiet)
    (honline : s.memory.isOffline = false) (hc : s.tables.comment p column text = .ok t) :
    (Store.comment p.1 p.2 column text s).1 = .ok () := by
  have hturn : Drifts quiet s s.takeTurn := drifts_takeTurn h
  have htables : s.takeTurn.memory.tables = s.memory.tables := hturn.tables_eq hq
  have hup : s.takeTurn.memory.isOffline = false := by
    rw [← honline]
    exact congrArg Prod.fst (hturn.reach_eq hq)
  have hcomment : s.takeTurn.memory.tables.comment p column text = .ok t := by
    rw [htables]
    exact hc
  show (s.takeTurn.memory.comment p column text).1 = .ok ()
  simp [MemoryStore.comment, hup, hcomment]

end Calls

end SharedStore

end MetricTables
