import MetricTables.Proofs.Mirror
import MetricTables.Proofs.Reconcile.Cached

/-!
# Attempts and pauses

How often a batch is matched, and how long the pauses between are. A further attempt is made exactly
if the one before failed in a way that may go away and a retry is left, and before it the machine
sleeps. The pause doubles with each retry up to the seventh and stays at that length.

Matching does not look at the clock. So it makes no difference whether the pauses are slept where
they belong or added up at the end, and the loop may count its retries in a word of 32 bits.

## Main definitions

* `FailsForNow` — a failure that may go away.
* `attemptAt` — an attempt, counted from zero, each beginning where the one before ended.
* `IsLast` — the attempt that ends a computation with some retries.
* `Work.sleep` — a pause.
* `callAt` — an attempt with the pauses before it.
* `wordLoop` — the loop with its counter and its delay in words of the machine.

## Main statements

* `retry_eq_attemptAt` — which attempts are made, and which pauses.
* `slept_eq` — the time slept behind some retries.
* `Matching.matchBatch_sleep` — matching does not look at the clock.
* `matchWithRetry_accounting` — the account of a batch that is matched with retries.
-/

namespace MetricTables

open Reconciliation

/-! ## Attempts -/

section Attempts

variable {τ α : Type}

/-- A failure that may go away by itself. -/
def FailsForNow (answer : Except SchemaError α) : Prop :=
  ∃ e, answer = .error e ∧ e.isTemporary = true

/-- An attempt, counted from zero: each begins where the one before ended. -/
def attemptAt (act : τ → Except SchemaError α × τ) (t : τ) : Nat → Except SchemaError α × τ
  | 0 => act t
  | k + 1 => act (attemptAt act t k).2

/-- The attempt that ends a computation that is tried again `retries` times at most. -/
structure IsLast (answer : Nat → Except SchemaError α) (retries k : Nat) : Prop where
  /-- No more retries are used than there are. -/
  le : k ≤ retries
  /-- Another attempt is made exactly if one failed for now and a retry is left. -/
  goesOn : ∀ i ≤ k, i < k ↔ FailsForNow (answer i) ∧ i < retries

namespace IsLast

variable {answer : Nat → Except SchemaError α} {retries k j : Nat}

/-- There is one last attempt only. -/
theorem unique (h : IsLast answer retries k) (h' : IsLast answer retries j) : k = j := by
  have hle : ∀ {k j}, IsLast answer retries k → IsLast answer retries j → k ≤ j := by
    intro k j h h'
    by_contra hlt
    have hgoes := (h.goesOn j (by omega)).1 (by omega)
    have := (h'.goesOn j le_rfl).2 hgoes
    omega
  exact Nat.le_antisymm (hle h h') (hle h' h)

/-- An attempt that does not fail for now is the last one. -/
theorem zero (h : ¬ FailsForNow (answer 0)) : IsLast answer retries 0 where
  le := Nat.zero_le _
  goesOn i hi := by
    obtain rfl : i = 0 := by omega
    simp [h]

/-- Without a retry the first attempt is the last one. -/
theorem zero_zero : IsLast answer 0 0 where
  le := le_rfl
  goesOn i hi := by simp [show i = 0 by omega]

/-- Behind an attempt that fails for now the next one is the first, with one retry less. -/
theorem succ (h₀ : FailsForNow (answer 0)) (h : IsLast (fun i => answer (i + 1)) retries k) :
    IsLast answer (retries + 1) (k + 1) where
  le := Nat.succ_le_succ h.le
  goesOn i hi := by
    cases i with
    | zero => simp [h₀]
    | succ i =>
      simpa using h.goesOn i (by omega)

end IsLast

variable (act : τ → Except SchemaError α × τ)

theorem attemptAt_succ (t : τ) (k : Nat) :
    attemptAt act t (k + 1) = attemptAt act (act t).2 k := by
  induction k with
  | zero => rfl
  | succ k ih => rw [attemptAt, ih, attemptAt]

/-- A computation ends with its last attempt, and a pause comes before each retry. -/
theorem retry_eq_attemptAt (first left : Nat) (t : τ) :
    ∃ k, IsLast (fun i => (attemptAt act t i).1) left k ∧
      retry act first left t = (attemptAt act t k, (List.range' first k).map pause) := by
  induction left generalizing first t with
  | zero => exact ⟨0, .zero_zero, rfl⟩
  | succ left ih =>
    rw [retry]
    rcases hact : act t with ⟨answer, t'⟩
    cases answer with
    | ok a =>
      refine ⟨0, .zero ?_, by simp [attemptAt, hact]⟩
      simp [FailsForNow, attemptAt, hact]
    | error e =>
      dsimp only
      split
      next htemporary =>
        obtain ⟨k, hlast, hretry⟩ := ih (first + 1) t'
        refine ⟨k + 1, .succ ⟨e, by simp [attemptAt, hact], htemporary⟩ ?_, ?_⟩
        · simpa [attemptAt_succ, hact] using hlast
        · rw [hretry, attemptAt_succ, hact]
          simp [List.range'_succ]
      next htemporary =>
        refine ⟨0, .zero ?_, by simp [attemptAt, hact]⟩
        simpa [FailsForNow, attemptAt, hact] using htemporary

end Attempts

/-! ## Pauses -/

theorem pause_eq (i : Nat) : pause i = .ofMillis (200 * 2 ^ min i 6) := by
  simp only [pause, firstPause, Duration.times, Duration.ofMillis, Duration.mk.injEq, Nat.pow_eq]
  omega

/-- The time slept behind some retries. -/
def slept : Nat → Duration
  | 0 => .zero
  | k + 1 => slept k + pause k

/-- Pauses double up to the seventh, and all further ones are as long as that. -/
theorem slept_eq (k : Nat) : slept k =
    .ofMillis (if k ≤ 7 then 200 * (2 ^ k - 1) else 200 * (127 + 64 * (k - 7))) := by
  have hadd (m n : Nat) : Duration.ofMillis m + .ofMillis n = .ofMillis (m + n) := by
    simp only [Duration.ofMillis, Nat.add_mul]
    rfl
  induction k with
  | zero => rfl
  | succ k ih =>
    rw [slept, ih, pause_eq, hadd]
    congr 1
    by_cases hk : k ≤ 6
    · have hpos : 0 < 2 ^ k := Nat.two_pow_pos k
      rw [if_pos (by omega), if_pos (by omega), min_eq_left hk, pow_succ]
      omega
    · rw [min_eq_right (by omega), if_neg (show ¬ k + 1 ≤ 7 by omega)]
      by_cases hseven : k = 7
      · simp [hseven]
      · rw [if_neg (by omega)]
        omega

/-- The pauses before the first `k` retries come to a closed sum. -/
theorem foldl_pauses (k : Nat) (elapsed : Duration) :
    ((List.range' 0 k).map pause).foldl (· + ·) elapsed = elapsed + slept k := by
  induction k with
  | zero => rfl
  | succ k ih =>
    rw [List.range'_1_concat, List.map_append, List.foldl_append, ih]
    simp [slept, Duration.add_assoc]

/-! ## Matching does not look at the clock -/

/-- The same state of a request at a later time. -/
def Workspace.sleep {σ : Type} (w : Workspace σ) (d : Duration) : Workspace σ :=
  { w with elapsed := w.elapsed + d }

/-- The same manager at a later time. -/
def Manager.sleep {σ : Type} (m : Manager σ) (d : Duration) : Manager σ :=
  { m with elapsed := m.elapsed + d }

/-- A pause. -/
def Work.sleep {σ : Type} (w : Work σ) (d : Duration) : Work σ :=
  { w with manager := w.manager.sleep d }

theorem Work.sleep_sleep {σ : Type} (w : Work σ) (d e : Duration) :
    (w.sleep d).sleep e = w.sleep (d + e) := by
  simp [sleep, Manager.sleep, Duration.add_assoc]

section Clock

variable {σ : Type} [Store σ] {o : Options}

/-- A limit counts from the start of its call, so an earlier pause does not matter. -/
theorem agree_bounded_sleep {α : Type} (d limit : Duration)
    (call : σ → Except StoreError α × σ) :
    Agree (fun w v => v = w.sleep d) (bounded limit call) (bounded limit call) := by
  rintro w _ rfl
  by_cases h : limit < Store.latency w.store
  · simp [bounded, Workspace.sleep, h, Duration.add_right_comm]
  · simp [bounded, Workspace.sleep, h, Duration.add_right_comm]

/-- Every call of a request is the same at a later time. -/
theorem agrees_sleep (d : Duration) (r : Request) :
    r.Agrees (fun w v : Workspace σ => v = w.sleep d) o := by
  have hcarryOut (templates : List Template) (cs allColumns : List Column) :
      Agree (fun w v : Workspace σ => v = w.sleep d) (r.carryOut o templates cs allColumns)
        (r.carryOut o templates cs allColumns) :=
    Request.agree_carryOut
      (fun _ _ => Request.agree_runTemplate fun _ _ => agree_bounded_sleep d _ _)
      fun _ => agree_bounded_sleep d _ _
  constructor
  · rintro w _ rfl
    rfl
  · rintro f w _ rfl
    exact ⟨rfl, rfl⟩
  · exact agree_bounded_sleep d _ _
  · intro cs _
    exact hcarryOut _ _ _
  · intro c _ allColumns
    exact hcarryOut _ _ _

/-- A request reads no clock: behind a pause it does the same, only later. -/
theorem Manager.ensure_sleep (m : Manager σ) (d : Duration) (r : Request) :
    (m.sleep d).ensure o r = ((m.ensure o r).1, (m.ensure o r).2.sleep d) := by
  let w : Workspace σ := ⟨m.store, m.elapsed, m.cache.definition r.table⟩
  obtain ⟨hanswer, hw⟩ := Request.agree_ensure (agrees_sleep (o := o) d r) w (w.sleep d) rfl
  rcases hrun : r.ensure o w with ⟨answer, w'⟩
  rcases hrun' : r.ensure o (w.sleep d) with ⟨answer', v'⟩
  rw [hrun, hrun'] at hanswer hw
  obtain rfl : answer = answer' := hanswer
  obtain rfl : v' = w'.sleep d := hw
  rw [ensure_of_run hrun]
  exact ensure_of_run (m := m.sleep d) hrun'

/-- A batch that is matched at a later time has the same result, as much later. -/
theorem Matching.matchBatch_sleep (w : Work σ) (d : Duration) :
    matchBatch o (w.sleep d) = ((matchBatch o w).1, (matchBatch o w).2.sleep d) := by
  have hensure (r : Request) : EnsuresAlike (fun m m' : Manager σ => m' = m.sleep d) o r := by
    rintro m _ rfl
    rw [Manager.ensure_sleep]
    exact ⟨rfl, rfl⟩
  obtain ⟨hanswer, hwork⟩ := agree_matchBatch (K := fun _ => True)
    (fun _ _ => trivial) (fun _ _ _ _ _ _ => hensure _) (fun _ _ => hensure _)
    w (w.sleep d) ⟨rfl, rfl, trivial⟩
  rcases hrun : matchBatch o (w.sleep d) with ⟨answer, manager, batch⟩
  rw [hrun] at hanswer hwork
  obtain rfl : manager = (matchBatch o w).2.manager.sleep d := hwork.manager
  obtain rfl : (matchBatch o w).2.batch = batch := hwork.batch
  obtain rfl : (matchBatch o w).1 = answer := hanswer
  rfl

end Clock

/-! ## Calls and pauses in their order -/

section Calls

variable {σ : Type} [Store σ] (o : Options)

/-- A call, counted from zero: before each one behind the first, the machine sleeps. The pauses are
counted from `first` on. -/
def callAt (first : Nat) (w : Work σ) : Nat → Except SchemaError Outcome × Work σ
  | 0 => Matching.matchBatch o w
  | k + 1 => Matching.matchBatch o ((callAt first w k).2.sleep (pause (first + k)))

variable {o}

theorem callAt_succ (first : Nat) (w : Work σ) (k : Nat) :
    callAt o first w (k + 1) =
      callAt o (first + 1) ((Matching.matchBatch o w).2.sleep (pause first)) k := by
  induction k with
  | zero => rfl
  | succ k ih => rw [callAt, ih, callAt, Nat.add_right_comm, Nat.add_assoc]

/-- The calls are the attempts, each as much later as was slept before it. -/
theorem callAt_eq_attemptAt (w : Work σ) (k : Nat) :
    callAt o 0 w k = ((attemptAt (Matching.matchBatch o).run w k).1,
      (attemptAt (Matching.matchBatch o).run w k).2.sleep (slept k)) := by
  induction k with
  | zero => rfl
  | succ k ih =>
    rw [callAt, ih, Nat.zero_add, Work.sleep_sleep, Matching.matchBatch_sleep]
    rfl

/-- Calls with pauses are what matching with retries comes to. -/
theorem matchWithRetry_eq_callAt (retries : Nat) (w : Work σ) :
    ∃ k, IsLast (fun i => (callAt o 0 w i).1) retries k ∧
      matchWithRetry o retries w = callAt o 0 w k := by
  obtain ⟨k, hlast, hretry⟩ := retry_eq_attemptAt (Matching.matchBatch o).run 0 retries w
  refine ⟨k, by simpa [callAt_eq_attemptAt] using hlast, ?_⟩
  rw [matchWithRetry, hretry, callAt_eq_attemptAt]
  simp only [foldl_pauses]
  rfl

/-! ## Words of the machine -/

/-- The pause as words of the machine give it: the nanoseconds of the first pause in 64 bits, times
one in 32 bits that is shifted by the counter or by six. Products and shifts may wrap around. -/
def wordPause (counter : UInt32) : Duration :=
  ⟨(UInt64.ofNat firstPause.nanos * (1 <<< min counter 6 : UInt32).toUInt64).toNat⟩

theorem wordPause_eq (counter : UInt32) : wordPause counter = pause counter.toNat := by
  have hmin : (min counter 6).toNat = min counter.toNat 6 := by
    show (if counter ≤ 6 then counter else 6 : UInt32).toNat = _
    have hiff : counter ≤ 6 ↔ counter.toNat ≤ 6 := UInt32.le_iff_toNat_le
    by_cases h : counter ≤ 6
    · rw [if_pos h, min_eq_left (hiff.1 h)]
    · have hlt : 6 < counter.toNat := Nat.lt_of_not_le (mt hiff.2 h)
      rw [if_neg h, min_eq_right hlt.le]
      rfl
  have hle : min counter.toNat 6 ≤ 6 := min_le_right _ _
  rw [wordPause, pause, UInt64.toNat_mul, UInt32.toNat_toUInt64, UInt32.toNat_shiftLeft, hmin]
  -- The delay is capped, so seven products are all there are.
  generalize min counter.toNat 6 = n at hle
  interval_cases n <;> rfl

/-- A counter that is below another word can be raised. -/
theorem toNat_succ_of_lt {counter retries : UInt32} (h : counter < retries) :
    (counter + 1).toNat = counter.toNat + 1 := by
  have := UInt32.lt_iff_toNat_lt.1 h
  have := retries.toNat_lt
  rw [UInt32.toNat_add]
  simp
  omega

variable (o) in
/-- The loop of calls with its counter in a word of the machine. Sums of words may wrap around. -/
def wordLoop (retries counter : UInt32) (w : Work σ) : Except SchemaError Outcome × Work σ :=
  match Matching.matchBatch o w with
  | (.error e, w') =>
    if e.isTemporary = true ∧ counter < retries then
      wordLoop retries (counter + 1) (w'.sleep (wordPause counter))
    else (.error e, w')
  | (.ok outcome, w') => (.ok outcome, w')
termination_by retries.toNat - counter.toNat
decreasing_by
  next h =>
  have := toNat_succ_of_lt h.2
  have := UInt32.lt_iff_toNat_lt.1 h.2
  omega

/-- The loop makes the calls that come behind its counter. -/
theorem wordLoop_eq_callAt (left : Nat) (retries counter : UInt32) (w : Work σ)
    (hleft : counter.toNat + left = retries.toNat) :
    ∃ k, IsLast (fun i => (callAt o counter.toNat w i).1) left k ∧
      wordLoop o retries counter w = callAt o counter.toNat w k := by
  induction left generalizing counter w with
  | zero =>
    have hnot : ¬ counter < retries := by
      rw [UInt32.lt_iff_toNat_lt]
      omega
    refine ⟨0, .zero_zero, ?_⟩
    rw [wordLoop, callAt]
    rcases Matching.matchBatch o w with ⟨_ | _, w'⟩ <;> simp [hnot]
  | succ left ih =>
    have hlt : counter < retries := by
      rw [UInt32.lt_iff_toNat_lt]
      omega
    rw [wordLoop]
    rcases hrun : Matching.matchBatch o w with ⟨answer, w'⟩
    cases answer with
    | ok outcome =>
      refine ⟨0, .zero ?_, hrun.symm⟩
      simp [FailsForNow, callAt, hrun]
    | error e =>
      by_cases htemporary : e.isTemporary = true
      · have hnext := toNat_succ_of_lt hlt
        obtain ⟨k, hlast, hloop⟩ :=
          ih (counter + 1) (w'.sleep (pause counter.toNat)) (by omega)
        have hsucc (k : Nat) : callAt o counter.toNat w (k + 1) =
            callAt o (counter + 1).toNat (w'.sleep (pause counter.toNat)) k := by
          rw [callAt_succ, hrun, hnext]
        refine ⟨k + 1, .succ ⟨e, by simp [callAt, hrun], htemporary⟩ ?_, ?_⟩
        · simpa only [hsucc] using hlast
        · simp only [htemporary, hlt, and_self, if_true, wordPause_eq, hloop, hsucc]
      · refine ⟨0, .zero ?_, ?_⟩
        · simpa [FailsForNow, callAt, hrun] using htemporary
        · simp [htemporary, callAt, hrun]

/-- A batch is matched with `retries` retries, on a store that may answer anything: there is a last
call, behind at most so many retries; another call is made exactly if one failed for now and a retry
is left; the last call gives the result, and the pause before each retry is twice as long as the one
before, up to the seventh. What is slept in all adds to the time of the calls. A machine that counts
the retries and shifts the delay in words of 32 bits makes the same calls and pauses. -/
theorem matchWithRetry_accounting (retries : UInt32) (w : Work σ) :
    ∃ k ≤ retries.toNat,
      matchWithRetry o retries.toNat w = callAt o 0 w k ∧
      (∀ i ≤ k, i < k ↔ FailsForNow (callAt o 0 w i).1 ∧ i < retries.toNat) ∧
      (∀ i, pause i = .ofMillis (200 * 2 ^ min i 6)) ∧
      (callAt o 0 w k).2 = (attemptAt (Matching.matchBatch o).run w k).2.sleep
        (.ofMillis (if k ≤ 7 then 200 * (2 ^ k - 1) else 200 * (127 + 64 * (k - 7)))) ∧
      wordLoop o retries 0 w = matchWithRetry o retries.toNat w := by
  obtain ⟨k, hlast, hmatch⟩ := matchWithRetry_eq_callAt (o := o) retries.toNat w
  obtain ⟨j, hlast', hloop⟩ := wordLoop_eq_callAt (o := o) retries.toNat retries 0 w (by simp)
  obtain rfl : k = j := hlast.unique hlast'
  refine ⟨k, hlast.le, hmatch, hlast.goesOn, pause_eq, ?_, hloop.trans hmatch.symm⟩
  rw [callAt_eq_attemptAt, slept_eq]

end Calls

end MetricTables
