import MetricTables.Proofs.Mirror
import MetricTables.Store.Database

/-!
# Failures of calls

What a request makes of the failures of the store, whatever store it is. A failed change is
one of three things: somebody else came first, it may go away by itself and is passed on, or it
costs the request columns. A failed question is always passed on, also if asking again is
of no use.

## Main definitions

* `Recorded` — a store with a record of the failures that it answered with.
* `Records` — what a computation adds to the record, and its result.
* `Request.Handles` — which failures are handled, and which one is passed on.

## Main statements

* `handles_ensure` — bringing a table in step handles failures so.
* `ensure_passes_on` — what is passed on, and when only what may go away is.
-/

namespace MetricTables

open Reconciliation

/-! ## Stores with a record -/

/-- A failure that a call was answered with. -/
structure Failure where
  /-- Whether the call asked for columns; all other calls change something. -/
  isQuestion : Bool
  error : StoreError

/-- A store with a record of the failures that it answered with, oldest first. -/
structure Recorded (σ : Type) where
  store : σ
  failures : List Failure := []

namespace Recorded

variable {σ α : Type}

/-- What an answer adds to the record. -/
def noted (isQuestion : Bool) : Except StoreError α → List Failure
  | .ok _ => []
  | .error e => [⟨isQuestion, e⟩]

def call (isQuestion : Bool) (f : σ → Except StoreError α × σ) (s : Recorded σ) :
    Except StoreError α × Recorded σ :=
  let (answer, store) := f s.store
  (answer, { store, failures := s.failures ++ noted isQuestion answer })

variable [Store σ]

instance : Store (Recorded σ) where
  kind := Store.kind σ
  latency s := Store.latency s.store
  columns namespaceName table := call true (Store.columns namespaceName table)
  execute sql := call false (Store.execute sql)
  comment namespaceName table column text :=
    call false (Store.comment namespaceName table column text)

/-- The record changes nothing about the store. -/
def mirror : Mirror (Recorded σ) σ where
  Alike s t := s.store = t
  latency := by
    rintro s _ rfl
    rfl
  columns := by
    rintro s _ n table rfl
    exact ⟨rfl, rfl⟩
  execute := by
    rintro s _ sql rfl
    exact ⟨rfl, rfl⟩
  comment := by
    rintro s _ n table column text rfl
    exact ⟨rfl, rfl⟩

end Recorded

def Workspace.recorded {σ : Type} (w : Workspace σ) : Workspace (Recorded σ) where
  store := { store := w.store }
  elapsed := w.elapsed
  definition := w.definition

/-! ## What computations record -/

/-- Computations on a store with a record. -/
abbrev Recording (σ : Type) := Reconciliation (Recorded σ)

/-- What a computation adds to the record, and its result. -/
def Records {σ α : Type} (x : Recording σ α)
    (Q : List Failure → Except SchemaError α → Prop) : Prop :=
  ∀ w, ∃ new, (x w).2.store.failures = w.store.failures ++ new ∧ Q new (x w).1

namespace Records

variable {σ α β : Type} {x : Recording σ α} {f : α → Recording σ β}
  {Q Q' : List Failure → Except SchemaError α → Prop}
  {Qb : List Failure → Except SchemaError β → Prop}

theorem mono (h : Records x Q) (hQ : ∀ new r, Q new r → Q' new r) : Records x Q' := by
  intro w
  obtain ⟨new, hnew, hr⟩ := h w
  exact ⟨new, hnew, hQ _ _ hr⟩

/-- A computation that makes no call. -/
theorem of_quiet {r : Except SchemaError α} (h : ∀ w, (x w).2.store = w.store ∧ (x w).1 = r)
    (hr : Q [] r) : Records x Q := by
  intro w
  obtain ⟨hstore, hresult⟩ := h w
  exact ⟨[], by rw [hstore, List.append_nil], hresult ▸ hr⟩

theorem pure {a : α} (h : Q [] (.ok a)) : Records (Pure.pure a : Recording σ α) Q :=
  of_quiet (fun _ => ⟨rfl, rfl⟩) h

theorem throw {e : SchemaError} (h : Q [] (.error e)) :
    Records (throw e : Recording σ α) Q :=
  of_quiet (fun _ => ⟨rfl, rfl⟩) h

theorem setDefinition {g : Definition → Definition}
    {Q : List Failure → Except SchemaError PUnit → Prop} (h : Q [] (.ok ⟨⟩)) :
    Records (setDefinition g : Recording σ PUnit) Q :=
  of_quiet (fun _ => ⟨rfl, rfl⟩) h

theorem setDefinition_bind {g : Definition → Definition}
    {f : PUnit → Recording σ β} (h : Records (f ⟨⟩) Qb) :
    Records (Reconciliation.setDefinition g >>= f) Qb :=
  fun w => h { w with definition := g w.definition }

/-- The record of one computation stands before that of the next. -/
theorem bind {Qf : α → List Failure → Except SchemaError β → Prop} (hx : Records x Q)
    (hf : ∀ a, Records (f a) (Qf a)) (herror : ∀ new e, Q new (.error e) → Qb new (.error e))
    (hok : ∀ new a new' r, Q new (.ok a) → Qf a new' r → Qb (new ++ new') r) :
    Records (x >>= f) Qb := by
  intro w
  obtain ⟨new, hnew, hQ⟩ := hx w
  rcases hrun : x w with ⟨r, w₁⟩
  rw [hrun] at hnew hQ
  cases r with
  | error e =>
    rw [run_bind_of_error hrun]
    exact ⟨new, hnew, herror _ _ hQ⟩
  | ok a =>
    rw [run_bind_of_ok hrun]
    obtain ⟨new', hnew', hQf⟩ := hf a w₁
    exact ⟨new ++ new', by rw [hnew', hnew, List.append_assoc], hok _ _ _ _ hQ hQf⟩

theorem known_bind {f : Definition → Recording σ β} (h : ∀ d, Records (f d) Qb) :
    Records (known >>= f) Qb := fun w => h w.definition w

/-- A computation that goes on after a success and after a failure. -/
theorem attempt_bind {f : Except SchemaError α → Recording σ β} (hx : Records x Q)
    (hf : ∀ new r, Q new r → Records (f r) fun new' => Qb (new ++ new')) :
    Records (attempt x >>= f) Qb := by
  intro w
  obtain ⟨new, hnew, hQ⟩ := hx w
  obtain ⟨new', hnew', hQb⟩ := hf new _ hQ (x w).2
  have hrun : (attempt x >>= f) w = f (x w).1 (x w).2 := run_bind_of_ok (run_attempt rfl)
  rw [hrun]
  exact ⟨new ++ new', by rw [hnew', hnew, List.append_assoc], hQb⟩

/-- A call that is made fails on the record; one that is given up leaves none. -/
theorem bounded [Store σ] {limit : Duration} {isQuestion : Bool}
    {call : σ → Except StoreError α × σ}
    (hok : ∀ a, Q [] (.ok a)) (htimeout : Q [] (.error (.store (.timeout limit))))
    (herror : ∀ e, Q [⟨isQuestion, e⟩] (.error (.store e))) :
    Records (Reconciliation.bounded limit (Recorded.call isQuestion call)) Q := by
  intro w
  by_cases hslow : limit < Store.latency w.store
  · have hrun : Reconciliation.bounded limit (Recorded.call isQuestion call) w =
        (.error (.store (.timeout limit)), { w with elapsed := w.elapsed + limit }) := if_pos hslow
    rw [hrun]
    exact ⟨[], (List.append_nil _).symm, htimeout⟩
  · rw [run_bounded hslow (rfl : Recorded.call isQuestion call w.store = (_, _))]
    refine ⟨Recorded.noted isQuestion (call w.store.store).1, rfl, ?_⟩
    show Q _ ((call w.store.store).1.mapError .store)
    cases (call w.store.store).1 with
    | ok a => exact hok a
    | error e => exact herror e

end Records

/-! ## Calls in a row -/

/-- Calls of one kind were made until one failed. -/
inductive Stops (limit : Duration) (isQuestion : Bool) {α : Type} :
    List Failure → Except SchemaError α → Prop
  | done (a : α) : Stops limit isQuestion [] (.ok a)
  | timeout : Stops limit isQuestion [] (.error (.store (.timeout limit)))
  | template (source : String) (fault : Template.Fault) (h : isQuestion = false) :
    Stops limit isQuestion [] (.error (.template source fault))
  | failed (e : StoreError) : Stops limit isQuestion [⟨isQuestion, e⟩] (.error (.store e))

section Stops

variable {σ α β : Type} {limit : Duration} {isQuestion : Bool}
  {x : Recording σ α} {f : α → Recording σ β}

theorem Stops.of_error {new : List Failure} {e : SchemaError}
    (h : Stops limit isQuestion new (.error e : Except SchemaError α)) :
    Stops limit isQuestion new (.error e : Except SchemaError β) := by
  cases h with
  | timeout => exact .timeout
  | template source fault h => exact .template source fault h
  | failed e => exact .failed e

theorem stops_bind (hx : Records x (Stops limit isQuestion))
    (hf : ∀ a, Records (f a) (Stops limit isQuestion)) :
    Records (x >>= f) (Stops limit isQuestion) := by
  refine hx.bind hf (fun _ _ h => h.of_error) ?_
  rintro new a new' r hdone h
  cases hdone
  exact h

theorem stops_forM {γ : Type} {g : γ → Recording σ PUnit} {cs : List γ}
    (hg : ∀ c ∈ cs, Records (g c) (Stops limit isQuestion)) :
    Records (cs.forM g) (Stops limit isQuestion) := by
  induction cs with
  | nil => exact .pure (.done _)
  | cons c cs ih =>
    exact stops_bind (hg c List.mem_cons_self) fun _ =>
      ih fun d hd => hg d (List.mem_cons_of_mem _ hd)

theorem stops_bounded [Store σ] (call : σ → Except StoreError α × σ) :
    Records (Reconciliation.bounded limit (Recorded.call isQuestion call))
      (Stops limit isQuestion) :=
  .bounded .done .timeout .failed

end Stops

namespace Request

variable {σ : Type} [Store σ] (o : Options) (r : Request)

theorem stops_refresh : Records (r.refresh o : Recording σ PUnit) (Stops o.statementTimeout true) :=
  stops_bind (stops_bounded (Store.columns o.namespaceName r.table)) fun _ =>
    .setDefinition (.done _)

theorem stops_runTemplate (c : Template.Context) (t : Template) :
    Records (runTemplate o c t : Recording σ PUnit) (Stops o.statementTimeout false) := by
  unfold runTemplate
  cases t.render c with
  | error fault => exact .throw (.template t.source fault rfl)
  | ok sql => exact stops_bounded (Store.execute sql)

theorem stops_carryOut (templates : List Template) (columns allColumns : List Column) :
    Records (r.carryOut o templates columns allColumns : Recording σ PUnit)
      (Stops o.statementTimeout false) :=
  stops_bind (stops_forM fun t _ => stops_runTemplate o _ t) fun _ => stops_forM fun c _ =>
    stops_bounded (Store.comment o.namespaceName r.table c.name tagComment)

/-- The first statement that fails ends a creation with its failure. -/
theorem stops_createTable (columns : List Column) :
    Records (r.createTable o columns : Recording σ PUnit) (Stops o.statementTimeout false) := by
  refine (stops_carryOut o r _ _ _).attempt_bind fun new answer h => ?_
  cases answer with
  | ok _ =>
    cases h
    exact .setDefinition (.done _)
  | error e =>
    refine .setDefinition_bind (.throw ?_)
    rw [List.append_nil]
    exact h.of_error

theorem stops_addColumn (c : Column) :
    Records (r.addColumn o c : Recording σ PUnit) (Stops o.statementTimeout false) :=
  .known_bind fun _ => stops_bind (stops_carryOut o r _ _ _) fun _ => .setDefinition (.done _)

end Request

/-! ## What is handled -/

/-- A failure that a request goes on after: a change failed for good, or because somebody else
came first. -/
def Failure.IsHandled (f : Failure) : Prop :=
  f.isQuestion = false ∧ (f.error.isTemporary = true → f.error.isDuplicateObject = true)

/-- The failure that a request ends with, and what of the record is about it. -/
inductive Request.PassesOn (o : Options) (r : Request) : List Failure → SchemaError → Prop
  | timeout : PassesOn o r [] (.store (.timeout o.statementTimeout))
  | name : PassesOn o r [] (.tableNameTooLong r.table o.identifierMaxBytes)
  | question (e : StoreError) : PassesOn o r [⟨true, e⟩] (.store e)
  | change (e : StoreError) (temporary : e.isTemporary = true)
    (other : e.isDuplicateObject = false) : PassesOn o r [⟨false, e⟩] (.store e)

/-- Failures are handled up to the one that is passed on. A result after a failure for good
is a loss. -/
def Request.Handles {α : Type} (o : Options) (r : Request) (loss : α → Prop)
    (new : List Failure) : Except SchemaError α → Prop
  | .ok a => (∀ f ∈ new, f.IsHandled) ∧ ((∃ f ∈ new, f.error.isTemporary = false) → loss a)
  | .error e => ∃ handled last, new = handled ++ last ∧ (∀ f ∈ handled, f.IsHandled) ∧
      r.PassesOn o last e

/-- What is there already may be asked for. -/
theorem StoreError.isTemporary_of_isDuplicateObject {e : StoreError}
    (h : e.isDuplicateObject = true) : e.isTemporary = true := by
  cases e with
  | database code message =>
    simp only [isDuplicateObject, code?, Bool.or_eq_true, beq_iff_eq, Option.some.injEq] at h
    rcases h with rfl | rfl <;> rfl
  | _ => simp [isDuplicateObject, code?] at h

/-- Sorting loses no column. -/
theorem Column.sort_ne_nil {cs : List Column} (h : cs ≠ []) : sort cs ≠ [] := by
  intro hnil
  have hperm := sort_perm cs
  rw [hnil] at hperm
  exact h hperm.nil_eq.symm

namespace Request

section Handles

variable {α β : Type} {o : Options} {r : Request} {loss : α → Prop} {loss' : β → Prop}

theorem Handles.pure (a : α) : r.Handles o loss [] (.ok a) := by simp [Handles]

theorem Handles.passed {last : List Failure} {e : SchemaError} (h : r.PassesOn o last e) :
    r.Handles o loss last (.error e) := ⟨[], last, rfl, by simp, h⟩

/-- Handled failures may stand in front. -/
theorem Handles.append {new new' : List Failure} {answer : Except SchemaError α}
    (hnew : ∀ f ∈ new, f.IsHandled) (h : r.Handles o loss new' answer)
    (hloss : (∃ f ∈ new, f.error.isTemporary = false) → ∀ a, answer = .ok a → loss a) :
    r.Handles o loss (new ++ new') answer := by
  cases answer with
  | ok a =>
    obtain ⟨hnew', hloss'⟩ := h
    refine ⟨fun f hf => (List.mem_append.1 hf).elim (hnew f) (hnew' f), ?_⟩
    rintro ⟨f, hf, hpermanent⟩
    rcases List.mem_append.1 hf with hf | hf
    · exact hloss ⟨f, hf, hpermanent⟩ a rfl
    · exact hloss' ⟨f, hf, hpermanent⟩
  | error e =>
    obtain ⟨handled, last, rfl, hhandled, hlast⟩ := h
    exact ⟨new ++ handled, last, by simp,
      fun f hf => (List.mem_append.1 hf).elim (hnew f) (hhandled f), hlast⟩

variable {σ : Type} {x : Recording σ α} {f : α → Recording σ β}

/-- A loss of the first computation is to be one of both. -/
theorem handles_bind (hx : Records x (r.Handles o loss))
    (hf : ∀ a, Records (f a) fun new answer => r.Handles o loss' new answer ∧
      (loss a → ∀ b, answer = .ok b → loss' b)) :
    Records (x >>= f) (r.Handles o loss') := by
  refine hx.bind hf (fun new e h => h) ?_
  rintro new a new' answer ⟨hnew, hloss⟩ ⟨h, hloss'⟩
  exact h.append hnew fun hpermanent => hloss' (hloss hpermanent)

variable [Store σ]

theorem handles_refresh :
    Records (r.refresh o : Recording σ PUnit) (r.Handles o fun _ => False) := by
  refine (stops_refresh o r).mono fun new answer h => ?_
  cases h with
  | done a => exact .pure a
  | timeout => exact .passed .timeout
  | template source fault h => cases h
  | failed e => exact .passed (.question e)

omit [Store σ] in
/-- The three ways in which a failure of a change is handled. -/
theorem handles_failure {new : List Failure} {e : SchemaError}
    (h : Stops o.statementTimeout false new (.error e : Except SchemaError α))
    {recovered : Recording σ β} {given : β}
    (hrecovered : Records recovered (r.Handles o loss')) (hgiven : loss' given) :
    Records (if e.isDuplicateObject then recovered else if e.isTemporary then throw e
      else Pure.pure given) fun new' => r.Handles o loss' (new ++ new') := by
  cases h with
  | timeout => exact .throw (.passed .timeout)
  | template source fault _ => exact .pure (.pure given)
  | failed e =>
    split
    next hduplicate =>
      have htemporary := StoreError.isTemporary_of_isDuplicateObject hduplicate
      refine hrecovered.mono fun new' answer h => h.append ?_ ?_
      · rintro f hf
        obtain rfl := List.mem_singleton.1 hf
        exact ⟨rfl, fun _ => hduplicate⟩
      · rintro ⟨f, hf, hpermanent⟩
        obtain rfl := List.mem_singleton.1 hf
        cases htemporary.symm.trans hpermanent
    next hother =>
      split
      next htemporary => exact .throw (.passed (.change e htemporary (eq_false_of_ne_true hother)))
      next hpermanent =>
        refine .pure ⟨fun f hf => ?_, fun _ => hgiven⟩
        obtain rfl := List.mem_singleton.1 hf
        exact ⟨rfl, fun htemporary => absurd htemporary hpermanent⟩

end Handles

section Ensure

variable {σ : Type} [Store σ] {o : Options} {r : Request}

/-- A column whose statement fails permanently counts as missing. -/
theorem handles_tryAddColumn (c : Column) :
    Records (r.tryAddColumn o c : Recording σ Bool) (r.Handles o (· = false)) := by
  refine (stops_addColumn o r c).attempt_bind fun new answer h => ?_
  cases answer with
  | ok _ =>
    cases h
    exact .pure (.pure true)
  | error e =>
    refine handles_failure h (handles_bind handles_refresh fun _ => ?_) rfl
    exact .known_bind fun d => .pure ⟨.pure _, False.elim⟩

theorem handles_addColumns (cs : List Column) :
    Records (r.addColumns o cs : Recording σ (List Column)) (r.Handles o (· ≠ [])) := by
  induction cs with
  | nil => exact .pure (.pure [])
  | cons c cs ih =>
    have hlast : ∀ (added : Bool) (rest : List Column),
        Records (Pure.pure (if added then rest else c :: rest) : Recording σ _)
          fun new answer => new = [] ∧ answer = .ok (if added then rest else c :: rest) :=
      fun _ _ => .pure ⟨rfl, rfl⟩
    refine handles_bind (handles_tryAddColumn c) fun added => ih.bind (hlast added) ?_ ?_
    · intro new e h
      exact ⟨h, fun _ _ h => nomatch h⟩
    · rintro new rest _ _ ⟨hnew, hloss⟩ ⟨rfl, rfl⟩
      rw [List.append_nil]
      refine ⟨⟨hnew, fun hpermanent => ?_⟩, ?_⟩
      · cases added with
        | true => exact hloss hpermanent
        | false => exact List.cons_ne_nil c rest
      · rintro rfl _ hanswer
        cases hanswer
        exact List.cons_ne_nil c rest

theorem handles_extend (g : Gap) :
    Records (r.extend o g : Recording σ (List Column)) (r.Handles o (· ≠ [])) := by
  unfold extend
  split
  · exact .pure (.pure _)
  · split
    · exact .pure (.pure _)
    · refine handles_bind (handles_addColumns g.addable) fun failed => ?_
      have hresult :
          Records (Pure.pure (Column.sort (g.missing ++ failed)) : Recording σ (List Column))
            fun new answer => r.Handles o (· ≠ []) new answer ∧
              (failed ≠ [] → ∀ b, answer = .ok b → b ≠ []) := by
        refine .pure ⟨.pure _, fun hfailed b hb => ?_⟩
        cases hb
        exact Column.sort_ne_nil (by simp [hfailed])
      dsimp only
      split
      · exact .setDefinition_bind hresult
      · exact hresult

theorem handles_create {required : List Column} (hrequired : required ≠ []) (g : Gap) :
    Records (r.create o required g : Recording σ (List Column)) (r.Handles o (· ≠ [])) := by
  refine (stops_createTable o r g.addable).attempt_bind fun new answer h => ?_
  cases answer with
  | ok _ =>
    cases h
    exact .pure (.pure _)
  | error e =>
    refine handles_failure h
      (handles_bind handles_refresh fun _ => .known_bind fun d => ?_) hrequired
    split
    · exact (handles_extend _).mono fun _ _ h => ⟨h, False.elim⟩
    · exact .pure ⟨.pure _, False.elim⟩

/-- A permanent failure of a statement ends in missing columns; that of a question ends the
request. -/
theorem handles_change (required : List Column) :
    Records (r.change o required : Recording σ (List Column)) (r.Handles o (· ≠ [])) := by
  refine .known_bind fun d => ?_
  dsimp only
  split
  · exact handles_extend _
  · split
    · exact .pure (.pure _)
    · split
      · exact .throw (.passed .name)
      · split
        · exact .pure (.pure _)
        next hempty =>
          refine handles_create ?_ _
          rintro rfl
          exact hempty rfl

/-- Bringing a table in step handles the failures of a store, whatever store it is. -/
theorem handles_ensure :
    Records (r.ensure o : Recording σ (List Column)) (r.Handles o (· ≠ [])) := by
  refine .known_bind fun d => ?_
  split
  · exact .pure (.pure _)
  · refine handles_bind handles_refresh fun _ => ?_
    exact (handles_change _).mono fun _ _ h => ⟨h, False.elim⟩

end Ensure

/-! ## What is passed on -/

section Failures

variable {σ α : Type} {o : Options} {r : Request} {loss : α → Prop} {new : List Failure}
  {answer : Except SchemaError α} {e : SchemaError}

/-- What is passed on is on the record, if it is the failure of a call. -/
theorem PassesOn.cases_error (h : r.PassesOn o new e) :
    e.isTemporary = true ∨ e = .tableNameTooLong r.table o.identifierMaxBytes ∨
      ∃ f ∈ new, f.isQuestion = true ∧ e = .store f.error := by
  cases h with
  | timeout => exact .inl rfl
  | name => exact .inr (.inl rfl)
  | question e => exact .inr (.inr ⟨_, List.mem_singleton_self _, rfl, rfl⟩)
  | change e temporary other => exact .inl temporary

theorem PassesOn.eq_of_mem (h : r.PassesOn o new e) {f : Failure} (hf : f ∈ new) :
    e = .store f.error := by
  cases h with
  | timeout => cases hf
  | name => cases hf
  | question e => rw [List.mem_singleton.1 hf]
  | change e temporary other => rw [List.mem_singleton.1 hf]

/-- What is not handled is passed on. -/
theorem Handles.eq_of_not_handled (h : r.Handles o loss new answer) {f : Failure} (hf : f ∈ new)
    (hnot : ¬ f.IsHandled) : answer = .error (.store f.error) := by
  cases answer with
  | ok a => exact absurd (h.1 f hf) hnot
  | error e =>
    obtain ⟨handled, last, rfl, hhandled, hlast⟩ := h
    rcases List.mem_append.1 hf with hf | hf
    · exact absurd (hhandled f hf) hnot
    · rw [hlast.eq_of_mem hf]

/-- The three ways to fail: for now, by too long a name, or with the failure of a question. -/
theorem Handles.cases_error (h : r.Handles o loss new (.error e)) :
    e.isTemporary = true ∨ e = .tableNameTooLong r.table o.identifierMaxBytes ∨
      ∃ f ∈ new, f.isQuestion = true ∧ e = .store f.error := by
  obtain ⟨handled, last, rfl, _, hlast⟩ := h
  refine hlast.cases_error.imp_right (Or.imp_right ?_)
  rintro ⟨f, hf, h⟩
  exact ⟨f, List.mem_append_right _ hf, h⟩

variable [Store σ]

/-- The failures that the calls of a request are answered with. -/
def failures (o : Options) (r : Request) (w : Workspace σ) : List Failure :=
  (r.ensure o w.recorded).2.store.failures

/-- Keeping a record changes nothing about a request. -/
theorem ensure_recorded (w : Workspace σ) : (r.ensure o w.recorded).1 = (r.ensure o w).1 ∧
    (r.ensure o w.recorded).2.store.store = (r.ensure o w).2.store := by
  obtain ⟨hanswer, hstores⟩ := Recorded.mirror.agree_ensure o r w.recorded w ⟨rfl, rfl, rfl⟩
  exact ⟨hanswer, hstores.store⟩

theorem handles_failures (w : Workspace σ) :
    r.Handles o (· ≠ []) (r.failures o w) (r.ensure o w).1 := by
  obtain ⟨new, hnew, h⟩ := handles_ensure (o := o) (r := r) w.recorded
  rw [(ensure_recorded w).1] at h
  have hfailures : r.failures o w = new := hnew
  exact hfailures ▸ h

/-- Whatever a store answers to the calls of a request: a failure that may go away by itself is
passed on, unless somebody else came first; a change that failed for good costs columns; and
the request fails only so, or for the name of the table, exactly if no question failed for
good. -/
theorem ensure_passes_on (o : Options) (r : Request) (w : Workspace σ) :
    ((r.ensure o w.recorded).1 = (r.ensure o w).1 ∧
      (r.ensure o w.recorded).2.store = ⟨(r.ensure o w).2.store, r.failures o w⟩) ∧
    (∀ f ∈ r.failures o w, f.error.isTemporary = true → f.error.isDuplicateObject = false →
      (r.ensure o w).1 = .error (.store f.error)) ∧
    (∀ missing, (r.ensure o w).1 = .ok missing → ∀ f ∈ r.failures o w,
      f.error.isTemporary = false → missing ≠ []) ∧
    (∀ e, (r.ensure o w).1 = .error e → e.isTemporary = true ∨
      e = .tableNameTooLong r.table o.identifierMaxBytes ∨
      ∃ f ∈ r.failures o w, f.isQuestion = true ∧ e = .store f.error) ∧
    ((∀ e, (r.ensure o w).1 = .error e → e.isTemporary = true ∨
        e = .tableNameTooLong r.table o.identifierMaxBytes) ↔
      ∀ f ∈ r.failures o w, f.isQuestion = true → f.error.isTemporary = true) := by
  obtain ⟨hanswer, hstore⟩ := ensure_recorded (o := o) (r := r) w
  have h := handles_failures (o := o) (r := r) w
  have herror : ∀ e, (r.ensure o w).1 = .error e → e.isTemporary = true ∨
      e = .tableNameTooLong r.table o.identifierMaxBytes ∨
      ∃ f ∈ r.failures o w, f.isQuestion = true ∧ e = .store f.error := by
    intro e he
    rw [he] at h
    exact h.cases_error
  refine ⟨⟨hanswer, ?_⟩, ?_, ?_, herror, ?_, ?_⟩
  · rw [← hstore]
    rfl
  · intro f hf htemporary hother
    refine h.eq_of_not_handled hf fun hhandled => ?_
    cases (hhandled.2 htemporary).symm.trans hother
  · intro missing hmissing f hf hpermanent
    rw [hmissing] at h
    exact h.2 ⟨f, hf, hpermanent⟩
  · intro honly f hf hquestion
    have hpassed : (r.ensure o w).1 = .error (.store f.error) := by
      refine h.eq_of_not_handled hf fun hhandled => ?_
      cases hhandled.1.symm.trans hquestion
    rcases honly _ hpassed with htemporary | hname
    · exact htemporary
    · cases hname
  · intro hquestions e he
    rcases herror e he with htemporary | hname | ⟨f, hf, hquestion, rfl⟩
    · exact .inl htemporary
    · exact .inr hname
    · exact .inl (hquestions f hf hquestion)

/-- A question that has to be asked is answered before anything is changed. -/
theorem ensure_of_question {w : Workspace σ} {e : StoreError}
    (hunsettled : r.settled? o (Column.sort r.required) w.definition = none)
    (hfast : ¬ o.statementTimeout < Store.latency w.store)
    (hquestion : (Store.columns o.namespaceName r.table w.store).1 = .error e) :
    (r.ensure o w).1 = .error (.store e) := by
  have hcall : Reconciliation.bounded o.statementTimeout
      (Store.columns o.namespaceName r.table) w = (.error (.store e), _) :=
    run_bounded hfast (Prod.ext hquestion rfl)
  have hrefresh : r.refresh o w = (.error (.store e), _) := run_bind_of_error hcall
  have hensure :
      r.ensure o w = (r.refresh o >>= fun _ => r.change o (Column.sort r.required)) w := by
    unfold ensure
    rw [run_bind_of_ok (show known w = (.ok w.definition, w) from rfl), hunsettled]
  rw [hensure, run_bind_of_error hrefresh]

end Failures

end Request

/-! ## A question that fails for good -/

def timeUsageRequest : Request where
  table := "cpu"
  required := [⟨"time", .time, .timestamp⟩, ⟨"usage", .field, .doublePrecision⟩]
  createTemplates := [.createTable]
  addColumnTemplates := [.addColumn]
  metricTable := "cpu"
  tagTable := none

/-- A database that has the table, but whose comment table was removed. -/
def Database.withoutComments : Database where
  tables := KeyMap.empty.insert "cpu" [{ name := "time", type := "timestamp without time zone" }]
  comments := []

/-- The failure of a question about the table. -/
def Database.noComments : StoreError :=
  .database StateCode.undefinedTable
    "SQL execution failure: \x60no such table: _tabula_column_comments\x60"

theorem Database.columns_withoutComments :
    (Store.columns "" "cpu" withoutComments).1 = .error noComments := by
  have hfailure : (match withoutComments.columns "" "cpu" with
      | .ok _ => none
      | .error e => some e) = some noComments := by
    decide +kernel
  show withoutComments.columns "" "cpu" = _
  cases hcolumns : withoutComments.columns "" "cpu" with
  | ok stored => simp [hcolumns] at hfailure
  | error e => simpa [hcolumns] using hfailure

/-- The question fails, and asking again is of no use. -/
theorem Request.ensure_withoutComments : ∃ e,
    (timeUsageRequest.ensure .plain { store := Database.withoutComments }).1 = .error e ∧
      e.isTemporary = false ∧ ∀ name limit, e ≠ .tableNameTooLong name limit := by
  refine ⟨.store Database.noComments, ?_, rfl, by simp⟩
  exact ensure_of_question rfl (by decide) Database.columns_withoutComments

end MetricTables
