import MetricTables.Matching
import MetricTables.Proofs.Layout
import MetricTables.Proofs.Reconcile.Quiet

/-!
# What is known and what the store says

A request looks at what is known of its table before it asks the store. If what is known is what
the store would say, it makes no difference whether the table is forgotten before a request: the
answer, the tables, the journal, the failures to come and what is known afterwards are the same,
for any templates and any required columns. Only a question is saved.

## Main statements

* `ensure_of_settled`, `ensure_of_unsettled` — a request that asks nothing, and one that asks.
* `change_of_settled` — what is settled before a question is settled behind it.
* `Manager.ensure_invalidate` — a request for a table that was forgotten.
-/

namespace MetricTables

open Reconciliation

namespace Cache

variable (c : Cache) (table : String)

/-- Nothing is known of a table that was forgotten. -/
theorem definition_invalidate_self : (c.invalidate table).definition table = .unknown := by
  unfold invalidate
  split
  · rw [definition_put, if_neg (by simp)]
  next hnew =>
    have hnone : c.find? table = none := by
      simpa [KeyMap.contains, find?, Option.isSome_iff_ne_none] using hnew
    rw [definition, hnone, Option.getD_none]

/-- The last definition that is kept counts. -/
@[simp] theorem put_put (d d' : Definition) : (c.put table d).put table d' = c.put table d' := by
  rw [put, put, put, KeyMap.insert_insert]

/-- It does not matter whether an entry was forgotten before it is replaced. -/
theorem put_invalidate (d : Definition) : (c.invalidate table).put table d = c.put table d := by
  unfold invalidate
  split
  · exact c.put_put table .unknown d
  · rfl

end Cache

namespace Request

/-! ## Settled requests -/

section Settled

variable {σ : Type} [Store σ] {o : Options} {r : Request} {required missing : List Column}
  {d : Definition} {w : Workspace σ}

/-- Nothing is settled of a table that is not known. -/
theorem settled?_unknown (required : List Column) : r.settled? o required .unknown = none := by
  simp [settled?]

/-- Of a table that is settled something is known, and no column can be added to it. -/
theorem settled?_eq_some (h : r.settled? o required d = some missing) :
    d.isKnown = true ∧
      ((d.gap o.identifierMaxBytes required).addable = [] ∨ r.addColumnTemplates = []) ∧
      missing = Column.sort ((d.gap o.identifierMaxBytes required).missing ++
        (d.gap o.identifierMaxBytes required).addable) := by
  obtain ⟨hsettled, hmissing⟩ := Option.ite_some_none_eq_some.1 h
  simp only [Bool.and_eq_true, Bool.or_eq_true, List.isEmpty_iff] at hsettled
  exact ⟨hsettled.1, hsettled.2, hmissing.symm⟩

/-- A request that is settled does nothing. -/
theorem ensure_of_settled
    (h : r.settled? o (Column.sort r.required) w.definition = some missing) :
    r.ensure o w = (.ok missing, w) := by
  have hknown : (known : Reconciliation σ Definition) w = (.ok w.definition, w) := rfl
  rw [ensure, run_bind_of_ok hknown, h]
  rfl

/-- A request that is not settled asks the store. -/
theorem ensure_of_unsettled (h : r.settled? o (Column.sort r.required) w.definition = none) :
    r.ensure o w =
      (do r.refresh o; r.change o (Column.sort r.required) : Reconciliation σ _) w := by
  have hknown : (known : Reconciliation σ Definition) w = (.ok w.definition, w) := rfl
  rw [ensure, run_bind_of_ok hknown, h]

/-- What is settled by what is known changes nothing. -/
theorem change_of_settled (h : r.settled? o required w.definition = some missing) :
    r.change o required w = (.ok missing, w) := by
  obtain ⟨hknown, hclosed, rfl⟩ := settled?_eq_some h
  show (if w.definition.isKnown then _ else _ : Reconciliation σ (List Column)) w = _
  rw [if_pos hknown, extend]
  by_cases haddable : (w.definition.gap o.identifierMaxBytes required).addable = []
  · rw [if_pos (List.isEmpty_iff.2 haddable), haddable, List.append_nil]
    rfl
  · rw [if_neg (by simpa using haddable),
      if_pos (List.isEmpty_iff.2 (hclosed.resolve_left haddable))]
    rfl

end Settled

/-! ## Questions -/

section Question

variable {g : Sql.Dialect} {o : Options} {r : Request} {w : Workspace (MemoryStore g)}

/-- A store that responds is asked, and what was known before does not matter. -/
theorem ensure_of_asked (hw : w.store.Responds o)
    (h : r.settled? o (Column.sort r.required) w.definition = none) :
    r.ensure o w = r.change o (Column.sort r.required)
      { r.asked o w with elapsed := w.elapsed + w.store.latency } := by
  have hcall : bounded o.statementTimeout (Store.columns o.namespaceName r.table) w = _ :=
    run_bounded hw.fast (w.store.columns_responds hw (r.place o))
  have hrefresh : r.refresh o w =
      (.ok ⟨⟩, { r.asked o w with elapsed := w.elapsed + w.store.latency }) :=
    (run_bind_of_ok hcall).trans rfl
  exact (ensure_of_unsettled h).trans (run_bind_of_ok hrefresh)

end Question

end Request

/-! ## Managers -/

namespace Manager

variable {g : Sql.Dialect} {o : Options} {r : Request}

/-- What a request comes to is told of a manager. -/
theorem ensure_of_run {σ : Type} [Store σ] {m : Manager σ}
    {answer : Except SchemaError (List Column)} {w' : Workspace σ}
    (h : r.ensure o ⟨m.store, m.elapsed, m.cache.definition r.table⟩ = (answer, w')) :
    m.ensure o r = (answer, ⟨w'.store, w'.elapsed, m.cache.put r.table w'.definition⟩) := by
  have hrun : (r.ensure o).run ⟨m.store, m.elapsed, m.cache.definition r.table⟩ = (answer, w') := h
  rw [ensure, hrun]

/-- Whether a request is settled by what is known of its table. -/
def isSettled (o : Options) (r : Request) (m : Manager (MemoryStore g)) : Bool :=
  (r.settled? o (Column.sort r.required) (m.cache.definition r.table)).isSome

/-- A table of which is known what the store would say may as well be forgotten before a request,
in whatever dialect the store reads texts: the answer, the tables, the journal, the failures and
writes to come and what is known afterwards are the same, and so is the number of questions, but
for the one that a settled request saves. -/
theorem ensure_invalidate (o : Options) (r : Request) (m : Manager (MemoryStore g))
    (hlive : (m.cache.definition r.table).isKnown = true →
      m.cache.definition r.table = .ofStored o (m.store.tables.find? (r.place o)))
    (hresponds : m.store.Responds o) :
    ∃ elapsed, ({ m with cache := m.cache.invalidate r.table } : Manager _).ensure o r =
      ((m.ensure o r).1,
        { (m.ensure o r).2 with
          store := { (m.ensure o r).2.store with
            structureQueries := (m.ensure o r).2.store.structureQueries +
              if m.isSettled o r then 1 else 0 }
          elapsed }) := by
  let w : Workspace (MemoryStore g) := ⟨m.store, m.elapsed, m.cache.definition r.table⟩
  let asked : Workspace (MemoryStore g) :=
    { r.asked o w with elapsed := w.elapsed + w.store.latency }
  rcases hchange : r.change o (Column.sort r.required) asked with ⟨answer, w'⟩
  have hforgotten : ({ m with cache := m.cache.invalidate r.table } : Manager _).ensure o r =
      (answer, ⟨w'.store, w'.elapsed, m.cache.put r.table w'.definition⟩) := by
    rw [← Cache.put_invalidate]
    refine ensure_of_run ((Request.ensure_of_asked hresponds ?_).trans hchange)
    rw [Cache.definition_invalidate_self]
    exact Request.settled?_unknown _
  rw [hforgotten, isSettled]
  cases hsettled : r.settled? o (Column.sort r.required) (m.cache.definition r.table) with
  | none =>
    rw [ensure_of_run ((Request.ensure_of_asked hresponds hsettled).trans hchange)]
    exact ⟨_, rfl⟩
  | some missing =>
    -- the question gives what was known, and that settles the request again
    have hknown := hlive (Request.settled?_eq_some hsettled).1
    have hspared := Request.change_of_settled (w := asked) (hknown ▸ hsettled)
    cases hchange.symm.trans hspared
    rw [ensure_of_run (Request.ensure_of_settled hsettled)]
    exact ⟨_, by rw [hknown]; rfl⟩

def hosts : List StoredColumn :=
  [{ name := "time", type := "timestamp without time zone" }, { name := "host", type := "text" }]

/-- A table of hosts that is known, where the next statement fails. -/
def knownHosts : Manager MemoryStore where
  store := {
    tables := KeyMap.empty.insert ("", "cpu") hosts
    nextFailures := [MemoryStore.offline] }
  cache := ({} : Cache).put "cpu" (.ofColumns .plain hosts)

/-- A request that names hosts twice, and usage, which can only be added with a template. -/
def hostsTwice (addColumnTemplates : List Template) : Request where
  table := "cpu"
  required := [⟨"host", .tag, .text⟩, ⟨"usage", .field, .bigInt⟩, ⟨"host", .field, .text⟩]
  createTemplates := []
  addColumnTemplates
  metricTable := "cpu"
  tagTable := none

theorem ensure_invalidate_hostsTwice :
    (knownHosts.cache.definition "cpu").isKnown = true ∧
    ∀ templates, ∃ elapsed, ({ knownHosts with cache := knownHosts.cache.invalidate "cpu" } :
        Manager MemoryStore).ensure .plain (hostsTwice templates) =
      ((knownHosts.ensure .plain (hostsTwice templates)).1,
        { (knownHosts.ensure .plain (hostsTwice templates)).2 with
          store := { (knownHosts.ensure .plain (hostsTwice templates)).2.store with
            structureQueries :=
              (knownHosts.ensure .plain (hostsTwice templates)).2.store.structureQueries +
                if knownHosts.isSettled .plain (hostsTwice templates) then 1 else 0 }
          elapsed }) := by
  have hknown : knownHosts.cache.definition "cpu" =
      .ofStored .plain (knownHosts.store.tables.find? ("", "cpu")) := by decide
  refine ⟨by decide, fun templates => ?_⟩
  exact ensure_invalidate .plain (hostsTwice templates) knownHosts (fun _ => hknown)
    ⟨rfl, by decide⟩

end Manager

end MetricTables
