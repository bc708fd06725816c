import MetricTables.Proofs.Store.Shared
import MetricTables.Reconcile

/-!
# Runs beside other users

What a computation on a shared store does is a relation between the state it starts in, its
result and the state it ends in. The relation has to hold only where others were lawful up to
the end of the computation, which is known only then; since the store forgets nothing, others
were lawful up to every point in between as well.

## Main definitions

* `Does` — what a computation does if others are lawful.

## Main statements

* `Does.bind` — what two computations do one after the other.
* `does_bounded` — what a call of the store does.
-/

namespace MetricTables

/-! ## Single steps -/

section Run

variable {τ ε α β : Type} {x : ExceptT ε (StateM τ) α} {f : α → ExceptT ε (StateM τ) β} {w w₁ : τ}

theorem run_bind_of_ok {a : α} (h : x w = (.ok a, w₁)) : (x >>= f) w = f a w₁ := by
  show (match x w with | (r, s) => ExceptT.bindCont f r s) = _
  rw [h]
  rfl

theorem run_bind_of_error {e : ε} (h : x w = (.error e, w₁)) :
    (x >>= f) w = (.error e, w₁) := by
  show (match x w with | (r, s) => ExceptT.bindCont f r s) = _
  rw [h]
  rfl

end Run

namespace Reconciliation

variable {σ α : Type} {w w₁ : Workspace σ}

theorem run_attempt {x : Reconciliation σ α} {answer : Except SchemaError α}
    (h : x w = (answer, w₁)) : attempt x w = (.ok answer, w₁) := by
  show (Except.ok (x w).1, (x w).2) = _
  rw [h]

/-- A call that does not take too long is made. -/
theorem run_bounded [Store σ] {limit : Duration} {call : σ → Except StoreError α × σ}
    (hfast : ¬ limit < Store.latency w.store) {answer : Except StoreError α} {s : σ}
    (h : call w.store = (answer, s)) : bounded limit call w =
      (answer.mapError .store,
        { w with store := s, elapsed := w.elapsed + Store.latency w.store }) := by
  have hrun : bounded limit call w = ((call w.store).1.mapError .store,
      { w with store := (call w.store).2, elapsed := w.elapsed + Store.latency w.store }) :=
    if_neg hfast
  rw [hrun, h]

end Reconciliation

/-! ## What computations do -/

/-- What a computation does if others are lawful. -/
def Does {τ α : Type} (store : τ → SharedStore) (quiet : Prop)
    (r : ExceptT SchemaError (StateM τ) α) (Q : τ → Except SchemaError α → τ → Prop) : Prop :=
  ∀ w, (store w).Later (store (r w).2) ∧
    ((store (r w).2).Lawful quiet → Q w (r w).1 (r w).2)

namespace Does

variable {τ α β : Type} {store : τ → SharedStore} {quiet : Prop}
  {x : ExceptT SchemaError (StateM τ) α} {f : α → ExceptT SchemaError (StateM τ) β}
  {Q Q' : τ → Except SchemaError α → τ → Prop}

theorem mono (h : Does store quiet x Q) (hQ : ∀ w r w', Q w r w' → Q' w r w') :
    Does store quiet x Q' := fun w => ⟨(h w).1, fun hl => hQ _ _ _ ((h w).2 hl)⟩

theorem and (h : Does store quiet x Q) (h' : Does store quiet x Q') :
    Does store quiet x fun w r w' => Q w r w' ∧ Q' w r w' :=
  fun w => ⟨(h w).1, fun hl => ⟨(h w).2 hl, (h' w).2 hl⟩⟩

theorem pure (a : α) :
    Does store quiet (Pure.pure a) fun w (r : Except SchemaError α) w' => r = .ok a ∧ w' = w :=
  fun _ => ⟨.refl _, fun _ => ⟨rfl, rfl⟩⟩

theorem throw (e : SchemaError) :
    Does store quiet (throw e) fun w (r : Except SchemaError α) w' => r = .error e ∧ w' = w :=
  fun _ => ⟨.refl _, fun _ => ⟨rfl, rfl⟩⟩

/-- One computation and then another: if the first fails that is all, and otherwise the
second goes on where the first ended. -/
theorem bind {Qf : α → τ → Except SchemaError β → τ → Prop}
    {Qb : τ → Except SchemaError β → τ → Prop} (hx : Does store quiet x Q)
    (hf : ∀ a, Does store quiet (f a) (Qf a))
    (herror : ∀ w e w', Q w (.error e) w' → Qb w (.error e) w')
    (hok : ∀ w a w₁ r w', Q w (.ok a) w₁ → Qf a w₁ r w' → Qb w r w') :
    Does store quiet (x >>= f) Qb := by
  intro w
  obtain ⟨hlater, hQ⟩ := hx w
  rcases hrun : x w with ⟨r, w₁⟩
  rw [hrun] at hlater hQ
  cases r with
  | error e =>
    rw [run_bind_of_error hrun]
    exact ⟨hlater, fun hl => herror w e w₁ (hQ hl)⟩
  | ok a =>
    rw [run_bind_of_ok hrun]
    obtain ⟨hlater', hQf⟩ := hf a w₁
    refine ⟨hlater.trans hlater', fun hl => ?_⟩
    exact hok w a w₁ _ _ (hQ (hlater'.lawful hl)) (hQf hl)

/-- The same computation for all elements of a list, as far as it does not fail. A
reflexive and transitive relation that it respects each time is respected. -/
theorem forM {γ : Type} {g : γ → ExceptT SchemaError (StateM τ) PUnit} {R : τ → τ → Prop}
    (hrefl : ∀ w, R w w) (htrans : ∀ w w₁ w', R w w₁ → R w₁ w' → R w w') {cs : List γ}
    (hg : ∀ c ∈ cs, Does store quiet (g c) fun w _ w' => R w w') :
    Does store quiet (cs.forM g) fun w _ w' => R w w' := by
  induction cs with
  | nil => exact (pure _).mono fun w _ w' h => h.2 ▸ hrefl w
  | cons c cs ih =>
    have hrest := ih fun d hd => hg d (List.mem_cons_of_mem _ hd)
    exact (hg c List.mem_cons_self).bind (fun _ => hrest) (fun _ _ _ h => h)
      fun _ _ _ _ _ h h' => htrans _ _ _ h h'

end Does

/-! ## Calls of the store -/

namespace Reconciliation

variable {quiet : Prop} {α : Type}

/-- Computations on one definition beside other users. -/
abbrev Shared (quiet : Prop) (r : Reconciliation SharedStore α)
    (Q : Workspace SharedStore → Except SchemaError α → Workspace SharedStore → Prop) : Prop :=
  Does Workspace.store quiet r Q

theorem does_known :
    Shared quiet known fun w r w' => r = .ok w.definition ∧ w' = w :=
  fun _ => ⟨.refl _, fun _ => ⟨rfl, rfl⟩⟩

/-- A computation on what is known. -/
theorem does_known_bind {f : Definition → Reconciliation SharedStore α}
    {Q : Workspace SharedStore → Except SchemaError α → Workspace SharedStore → Prop}
    (h : ∀ d, Shared quiet (f d) fun w r w' => w.definition = d → Q w r w') :
    Shared quiet (known >>= f) Q := by
  refine does_known.bind h ?_ ?_
  · rintro w e w' ⟨he, _⟩
    cases he
  · rintro w d w₁ r w' ⟨hd, rfl⟩ hQ
    cases hd
    exact hQ rfl

theorem does_setDefinition (f : Definition → Definition) :
    Shared quiet (setDefinition f) fun w r w' =>
      r = .ok ⟨⟩ ∧ w' = { w with definition := f w.definition } :=
  fun _ => ⟨.refl _, fun _ => ⟨rfl, rfl⟩⟩

theorem does_attempt {x : Reconciliation SharedStore α}
    {Q : Workspace SharedStore → Except SchemaError α → Workspace SharedStore → Prop}
    (h : Shared quiet x Q) :
    Shared quiet (attempt x) fun w r w' => ∃ answer, r = .ok answer ∧ Q w answer w' :=
  fun w => ⟨(h w).1, fun hl => ⟨_, rfl, (h w).2 hl⟩⟩

/-- A computation that goes on after a success and after a failure. -/
theorem does_attempt_bind {β : Type} {x : Reconciliation SharedStore α}
    {f : Except SchemaError α → Reconciliation SharedStore β}
    {Q : Workspace SharedStore → Except SchemaError α → Workspace SharedStore → Prop}
    {Qo : α → Workspace SharedStore → Except SchemaError β → Workspace SharedStore → Prop}
    {Qe : SchemaError → Workspace SharedStore → Except SchemaError β → Workspace SharedStore → Prop}
    {Qb : Workspace SharedStore → Except SchemaError β → Workspace SharedStore → Prop}
    (hx : Shared quiet x Q) (hf : ∀ a, Shared quiet (f (.ok a)) (Qo a))
    (hf' : ∀ e, Shared quiet (f (.error e)) (Qe e))
    (hok : ∀ w a w₁ r w', Q w (.ok a) w₁ → Qo a w₁ r w' → Qb w r w')
    (herror : ∀ w e w₁ r w', Q w (.error e) w₁ → Qe e w₁ r w' → Qb w r w') :
    Shared quiet (attempt x >>= f) Qb := by
  intro w
  have hattempt := does_attempt hx w
  rcases hrun : attempt x w with ⟨answer, w₁⟩
  rw [hrun] at hattempt
  obtain ⟨hlater, hQ⟩ := hattempt
  cases answer with
  | error e =>
    have hnot : attempt x w = (.ok (x w).1, (x w).2) := rfl
    cases hrun.symm.trans hnot
  | ok answer =>
    rw [run_bind_of_ok hrun]
    cases answer with
    | ok a =>
      refine ⟨hlater.trans (hf a w₁).1, fun hl => ?_⟩
      obtain ⟨_, hanswer, hQ⟩ := hQ ((hf a w₁).1.lawful hl)
      cases hanswer
      exact hok w a w₁ _ _ hQ ((hf a w₁).2 hl)
    | error e =>
      refine ⟨hlater.trans (hf' e w₁).1, fun hl => ?_⟩
      obtain ⟨_, hanswer, hQ⟩ := hQ ((hf' e w₁).1.lawful hl)
      cases hanswer
      exact herror w e w₁ _ _ hQ ((hf' e w₁).2 hl)

/-- A call of the store is given up before it begins, or it is made. -/
theorem does_bounded (quiet : Prop) (limit : Duration)
    (call : SharedStore → Except StoreError α × SharedStore)
    (hlater : ∀ s : SharedStore, s.Later (call s).2)
    {Q : SharedStore → Except StoreError α → SharedStore → Prop}
    (hQ : ∀ s, (call s).2.Lawful quiet → Q s (call s).1 (call s).2) :
    Shared quiet (bounded limit call) fun w r w' =>
      w'.definition = w.definition ∧
        (limit < w.store.memory.latency ∧ w'.store = w.store ∧
          r = .error (.store (.timeout limit)) ∨
          ¬ limit < w.store.memory.latency ∧
            ∃ answer, Q w.store answer w'.store ∧ r = answer.mapError .store) := by
  intro w
  by_cases h : limit < w.store.memory.latency
  · have hrun : bounded limit call w = (.error (.store (.timeout limit)),
        { w with elapsed := w.elapsed + limit }) := if_pos h
    rw [hrun]
    exact ⟨.refl _, fun _ => ⟨rfl, .inl ⟨h, rfl, rfl⟩⟩⟩
  · rw [run_bounded h (rfl : call w.store = ((call w.store).1, (call w.store).2))]
    exact ⟨hlater _, fun hl => ⟨rfl, .inr ⟨h, _, hQ _ hl, rfl⟩⟩⟩

end Reconciliation

end MetricTables
