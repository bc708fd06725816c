import Mathlib
import MetricTables.KeyMap

/-!
# What is found in maps

A map is determined by what is found under its keys. What an operation leaves behind is
therefore said by what is found afterwards.

## Main statements

* `find?_eq_some_iff` — the entries are the values under the keys.
* `ext_find?` — a map is determined by what is found in it.
* `find?_map`, `find?_filter`, `find?_insertNew` — what is found after an operation.
* `insert_comm`, `foldl_insert_perm` — insertions under different keys may change places.
-/

namespace MetricTables

namespace KeyMap

variable {κ α : Type} [KeyOrder κ] {m n : KeyMap κ α} {p q : κ → α → Bool} {k j : κ} {v : α}

/-- Keys that are not apart are equal. -/
theorem apart_iff : k < j ∨ j < k ↔ j ≠ k := by
  constructor
  · rintro h rfl
    exact h.elim (KeyOrder.irrefl j) (KeyOrder.irrefl j)
  · intro h
    by_contra hnot
    exact h (KeyOrder.total (fun hj => hnot (.inr hj)) (fun hk => hnot (.inl hk)))

/-- The first value of a key is found. -/
theorem lookup_cons [DecidableEq κ] (k a : κ) (v : α) (l : List (κ × α)) :
    lookup k ((a, v) :: l) = if a = k then some v else lookup k l := by
  rw [lookup]
  by_cases h : a = k
  · rw [if_neg (by simpa [apart_iff] using h), if_pos h]
  · rw [if_pos (apart_iff.2 h), if_neg h]

/-- In a list of increasing keys the first entry of a key is its only one. -/
theorem lookup_eq_some_iff {l : List (κ × α)} (hl : l.Pairwise fun a b => a.1 < b.1) {k : κ}
    {v : α} : lookup k l = some v ↔ (k, v) ∈ l := by
  induction l with
  | nil => simp [lookup]
  | cons e r ih =>
    obtain ⟨a, u⟩ := e
    obtain ⟨ha, hr⟩ := List.pairwise_cons.1 hl
    rw [lookup]
    split
    next hk =>
      have hne : k ≠ a := (apart_iff.1 hk).symm
      simp [ih hr, hne]
    next hk =>
      obtain rfl : a = k := not_not.1 fun h => hk (apart_iff.2 h)
      have hnot : (a, v) ∉ r := fun h => KeyOrder.irrefl a (ha _ h)
      simp [hnot, eq_comm]

/-- The entries are the values under the keys. -/
theorem find?_eq_some_iff : m.find? k = some v ↔ (k, v) ∈ m.entries :=
  lookup_eq_some_iff m.increasing

theorem contains_iff : m.contains k = true ↔ ∃ v, m.find? k = some v :=
  Option.isSome_iff_exists

theorem mem_keys : k ∈ m.keys ↔ m.contains k = true := by
  simp [keys, contains_iff, find?_eq_some_iff]

theorem keys_increasing (m : KeyMap κ α) : m.keys.Pairwise (· < ·) :=
  List.pairwise_map.2 m.increasing

theorem nodup_entries (m : KeyMap κ α) : m.entries.Nodup := by
  refine m.increasing.imp fun {a b} hlt heq => ?_
  rw [heq] at hlt
  exact KeyOrder.irrefl _ hlt

/-- A map is determined by its entries, whatever their order. -/
theorem ext_mem (h : ∀ k v, (k, v) ∈ m.entries ↔ (k, v) ∈ n.entries) : m = n := by
  have hperm : m.entries.Perm n.entries :=
    (List.perm_ext_iff_of_nodup m.nodup_entries n.nodup_entries).2 fun e => h e.1 e.2
  refine ext_entries (hperm.eq_of_pairwise (fun a b _ _ hab hba => ?_) m.increasing n.increasing)
  exact absurd (KeyOrder.trans hab hba) (KeyOrder.irrefl _)

/-- A map is determined by what is found in it. -/
theorem ext_find? (h : ∀ k, m.find? k = n.find? k) : m = n :=
  ext_mem fun k v => by rw [← find?_eq_some_iff, h, find?_eq_some_iff]

/-! ## Operations -/

theorem find?_map {β : Type} (m : KeyMap κ α) (f : α → β) (k : κ) :
    (m.map f).find? k = (m.find? k).map f := by
  refine Option.ext fun v => ?_
  rw [find?_eq_some_iff, Option.map_eq_some_iff]
  simp only [find?_eq_some_iff]
  simp [map]

theorem map_insert {β : Type} [DecidableEq κ] (m : KeyMap κ α) (f : α → β) (k : κ) (v : α) :
    (m.insert k v).map f = (m.map f).insert k (f v) := by
  refine ext_find? fun j => ?_
  by_cases hj : j = k
  · rw [hj, find?_map, find?_insert_self, find?_insert_self, Option.map_some]
  · rw [find?_map, find?_insert_of_ne _ hj, find?_insert_of_ne _ hj, find?_map]

theorem find?_filter (m : KeyMap κ α) (p : κ → α → Bool) (k : κ) :
    (m.filter p).find? k = (m.find? k).filter (p k) := by
  refine Option.ext fun v => ?_
  rw [find?_eq_some_iff, Option.filter_eq_some_iff, find?_eq_some_iff]
  exact List.mem_filter

theorem filter_filter (m : KeyMap κ α) (p q : κ → α → Bool) :
    (m.filter p).filter q = m.filter fun k v => q k v && p k v :=
  ext_entries (List.filter_filter ..)

/-- Tests that agree on what is found leave the same entries. -/
theorem filter_congr (h : ∀ k v, m.find? k = some v → p k v = q k v) : m.filter p = m.filter q :=
  ext_entries (List.filter_congr fun _ he => h _ _ (find?_eq_some_iff.2 he))

theorem mem_keys_filter (h : k ∈ (m.filter p).keys) : ∃ v, p k v = true := by
  obtain ⟨⟨k, v⟩, he, rfl⟩ := List.mem_map.1 h
  exact ⟨v, (List.mem_filter.1 he).2⟩

/-- A test that looks at keys only decides which keys are left. -/
theorem contains_filter (m : KeyMap κ α) (p : κ → Bool) (k : κ) :
    (m.filter fun k _ => p k).contains k = (m.contains k && p k) := by
  rw [contains, contains, find?_filter]
  cases m.find? k with
  | none => rfl
  | some v => by_cases hp : p k = true <;> simp [Option.filter, hp]

theorem erase_eq_filter [DecidableEq κ] (m : KeyMap κ α) (k : κ) :
    m.erase k = m.filter fun j _ => decide (j ≠ k) :=
  filter_congr fun _ _ _ => decide_eq_decide.2 apart_iff

theorem find?_insertNew [DecidableEq κ] (m : KeyMap κ α) (k j : κ) (v : α) :
    (m.insertNew k v).find? j = (m.find? j).or (if j = k then some v else none) := by
  unfold insertNew
  split
  next h =>
    obtain ⟨u, hu⟩ := contains_iff.1 h
    by_cases hj : j = k
    · simp [hj, hu]
    · simp [hj]
  next h =>
    by_cases hj : j = k
    · have hnone : m.find? k = none := by simpa [contains] using h
      simp [hj, hnone]
    · simp [hj, find?_insert_of_ne m hj]

theorem put_put (k : κ) (u v : α) (l : List (κ × α)) : put k v (put k u l) = put k v l := by
  induction l with
  | nil => simp [put, KeyOrder.irrefl]
  | cons e rest ih =>
    obtain ⟨a, x⟩ := e
    by_cases hk : k < a
    · simp [put, hk, KeyOrder.irrefl]
    · by_cases ha : a < k
      · simp [put, hk, ha, ih]
      · simp [put, hk, ha, KeyOrder.irrefl]

/-- The last insertion under a key counts. -/
@[simp] theorem insert_insert (m : KeyMap κ α) (k : κ) (u v : α) :
    (m.insert k u).insert k v = m.insert k v := ext_entries (put_put k u v m.entries)

theorem put_of_mem {l : List (κ × α)} (hl : l.Pairwise fun a b => a.1 < b.1)
    (h : (k, v) ∈ l) : put k v l = l := by
  induction l with
  | nil => cases h
  | cons e rest ih =>
    obtain ⟨a, u⟩ := e
    obtain ⟨ha, hrest⟩ := List.pairwise_cons.1 hl
    rcases List.mem_cons.1 h with heq | h
    · cases heq
      simp [put, KeyOrder.irrefl]
    · have hlt : a < k := ha _ h
      have hnot : ¬ k < a := fun hk => KeyOrder.irrefl a (KeyOrder.trans hlt hk)
      simp [put, hlt, hnot, ih hrest h]

/-- Putting in what is there changes nothing. -/
theorem insert_of_find? (h : m.find? k = some v) :
    m.insert k v = m := ext_entries (put_of_mem m.increasing (find?_eq_some_iff.1 h))

/-- Insertions under different keys may change places. -/
theorem insert_comm (m : KeyMap κ α) (h : j ≠ k) (u v : α) :
    (m.insert j u).insert k v = (m.insert k v).insert j u := by
  refine ext_find? fun i => ?_
  by_cases hj : i = j
  · subst hj
    rw [find?_insert_of_ne _ h, find?_insert_self, find?_insert_self]
  · by_cases hk : i = k
    · subst hk
      rw [find?_insert_self, find?_insert_of_ne _ hj, find?_insert_self]
    · rw [find?_insert_of_ne _ hk, find?_insert_of_ne _ hj, find?_insert_of_ne _ hj,
        find?_insert_of_ne _ hk]

/-- The order in which entries of different keys are inserted does not matter. -/
theorem foldl_insert_perm [DecidableEq κ] {l l' : List (κ × α)} (h : l.Perm l')
    (hl : (l.map Prod.fst).Nodup) (m : KeyMap κ α) :
    l.foldl (fun m e => m.insert e.1 e.2) m = l'.foldl (fun m e => m.insert e.1 e.2) m := by
  refine h.foldl_eq' (fun e he e' he' m => ?_) m
  by_cases hkey : e.1 = e'.1
  · rw [List.inj_on_of_nodup_map hl he he' hkey]
  · exact insert_comm m hkey _ _

end KeyMap

end MetricTables
