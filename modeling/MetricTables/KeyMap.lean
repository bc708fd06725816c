/-!
# Maps in key order

A finite map kept as the list of its entries in increasing key order. The order is part
of the type, so two maps with the same entries are the same map, and reading the
entries gives them sorted.

## Main definitions

* `KeyOrder` — a decidable strict linear order on keys.
* `KeyMap` — the map, with `find?`, `insert`, `insertNew`, `erase`, `filter`, `ofList`.

## Main statements

* `KeyMap.ext_entries` — a map is determined by its entries.
* `KeyMap.find?_insert`, `KeyMap.find?_insert_self`, `KeyMap.find?_insert_of_ne` — an insertion
  is seen at its key and nowhere else.
-/

namespace MetricTables

/-- A decidable strict linear order. -/
class KeyOrder (κ : Type) extends LT κ where
  decLt : DecidableLT κ
  irrefl (a : κ) : ¬ a < a
  trans {a b c : κ} : a < b → b < c → a < c
  total {a b : κ} : ¬ a < b → ¬ b < a → a = b

namespace KeyOrder

instance {κ : Type} [KeyOrder κ] : DecidableLT κ := KeyOrder.decLt

/-- Texts in the order of their code points. -/
instance : KeyOrder String where
  decLt := inferInstance
  irrefl := String.lt_irrefl
  trans := String.lt_trans
  total h h' := String.le_antisymm (String.not_lt.mp h') (String.not_lt.mp h)

/-- Signed words in the order of the integers. -/
instance : KeyOrder Int64 where
  decLt := inferInstance
  irrefl _ := Int64.lt_irrefl
  trans := Int64.lt_trans
  total h h' := Int64.le_antisymm (Int64.not_lt.mp h') (Int64.not_lt.mp h)

/-- Pairs in the order of their first parts, then of their second. -/
instance {κ ν : Type} [KeyOrder κ] [KeyOrder ν] : KeyOrder (κ × ν) where
  lt a b := a.1 < b.1 ∨ (¬ b.1 < a.1 ∧ a.2 < b.2)
  decLt _ _ := inferInstanceAs (Decidable (_ ∨ _))
  irrefl a h := h.elim (irrefl a.1) fun h => irrefl a.2 h.2
  trans {a b c} hab hbc := by
    rcases hab with h | ⟨h, h'⟩ <;> rcases hbc with k | ⟨k, k'⟩
    · exact .inl (trans h k)
    · by_cases hk : b.1 < c.1
      · exact .inl (trans h hk)
      · exact .inl (total hk k ▸ h)
    · by_cases hh : a.1 < b.1
      · exact .inl (trans hh k)
      · exact .inl (total hh h ▸ k)
    · exact .inr ⟨fun hc => by
        by_cases hk : b.1 < c.1
        · exact h (trans hk hc)
        · exact h (total hk k ▸ hc), trans h' k'⟩
  total {a b} h h' := by
    have h₁ : ¬ a.1 < b.1 := fun k => h (.inl k)
    have h₂ : ¬ b.1 < a.1 := fun k => h' (.inl k)
    exact Prod.ext (total h₁ h₂)
      (total (fun k => h (.inr ⟨h₂, k⟩)) (fun k => h' (.inr ⟨h₁, k⟩)))

end KeyOrder

/-- A finite map as the list of its entries in increasing key order. -/
structure KeyMap (κ : Type) [KeyOrder κ] (α : Type) where
  /-- The entries, keys increasing. -/
  entries : List (κ × α)
  increasing : entries.Pairwise (fun a b => a.1 < b.1)

namespace KeyMap

variable {κ : Type} [KeyOrder κ] {α β : Type}

/-- A map is determined by its entries. -/
theorem ext_entries {m n : KeyMap κ α} (h : m.entries = n.entries) : m = n := by
  cases m; cases n; cases h; rfl

instance [DecidableEq κ] [DecidableEq α] : DecidableEq (KeyMap κ α) := fun m n =>
  if h : m.entries = n.entries then .isTrue (ext_entries h)
  else .isFalse fun e => h (e ▸ rfl)

instance [Repr κ] [Repr α] : Repr (KeyMap κ α) := ⟨fun m n => reprPrec m.entries n⟩

def empty : KeyMap κ α := ⟨[], .nil⟩

instance : Inhabited (KeyMap κ α) := ⟨empty⟩

def size (m : KeyMap κ α) : Nat := m.entries.length

def isEmpty (m : KeyMap κ α) : Bool := m.entries.isEmpty

def map (f : α → β) (m : KeyMap κ α) : KeyMap κ β :=
  ⟨m.entries.map fun e => (e.1, f e.2), List.pairwise_map.2 m.increasing⟩

/-- The keys, increasing. -/
def keys (m : KeyMap κ α) : List κ := m.entries.map (·.1)

/-- The value under a key in a list of entries. -/
def lookup (k : κ) : List (κ × α) → Option α
  | [] => none
  | (a, v) :: r => if k < a ∨ a < k then lookup k r else some v

def find? (m : KeyMap κ α) (k : κ) : Option α := lookup k m.entries

def contains (m : KeyMap κ α) (k : κ) : Bool := (m.find? k).isSome

/-- Puts an entry at its place, over an entry of the same key. -/
def put (k : κ) (v : α) : List (κ × α) → List (κ × α)
  | [] => [(k, v)]
  | (a, w) :: r =>
    if k < a then (k, v) :: (a, w) :: r
    else if a < k then (a, w) :: put k v r
    else (k, v) :: r

theorem mem_put {k : κ} {v : α} {l : List (κ × α)} {p : κ × α} (h : p ∈ put k v l) :
    p = (k, v) ∨ p ∈ l := by
  induction l with
  | nil => simpa [put] using h
  | cons q r ih =>
    obtain ⟨a, w⟩ := q
    rw [put] at h
    split at h
    · simpa using h
    · split at h
      · rcases List.mem_cons.1 h with h | h
        · exact .inr (h ▸ List.mem_cons_self)
        · exact (ih h).imp_right (List.mem_cons_of_mem _)
      · exact (List.mem_cons.1 h).imp_right (List.mem_cons_of_mem _)

theorem pairwise_put (k : κ) (v : α) {l : List (κ × α)}
    (h : l.Pairwise (fun a b => a.1 < b.1)) : (put k v l).Pairwise (fun a b => a.1 < b.1) := by
  induction l with
  | nil => simp [put]
  | cons q r ih =>
    obtain ⟨a, w⟩ := q
    obtain ⟨hq, hr⟩ := List.pairwise_cons.1 h
    rw [put]
    split
    next hk =>
      refine List.pairwise_cons.2 ⟨fun p hp => ?_, h⟩
      rcases List.mem_cons.1 hp with rfl | hp
      · exact hk
      · exact KeyOrder.trans hk (hq p hp)
    next hk =>
      split
      next ha =>
        refine List.pairwise_cons.2 ⟨fun p hp => ?_, ih hr⟩
        rcases mem_put hp with rfl | hp
        · exact ha
        · exact hq p hp
      next ha =>
        cases KeyOrder.total hk ha
        exact List.pairwise_cons.2 ⟨hq, hr⟩

/-- The map with a value under a key, whatever was there. -/
def insert (m : KeyMap κ α) (k : κ) (v : α) : KeyMap κ α :=
  ⟨put k v m.entries, pairwise_put k v m.increasing⟩

/-- The map with a value under a key that had none. -/
def insertNew (m : KeyMap κ α) (k : κ) (v : α) : KeyMap κ α :=
  if m.contains k then m else m.insert k v

def filter (m : KeyMap κ α) (p : κ → α → Bool) : KeyMap κ α :=
  ⟨m.entries.filter fun e => p e.1 e.2, m.increasing.filter _⟩

def erase (m : KeyMap κ α) (k : κ) : KeyMap κ α :=
  m.filter fun a _ => decide (k < a ∨ a < k)

/-- The map of a list of entries; of two entries with one key the later counts. -/
def ofList (l : List (κ × α)) : KeyMap κ α := l.foldl (fun m e => m.insert e.1 e.2) empty

/-- Other keys than the one that was put are those that come before or after it. -/
theorem lookup_put (k j : κ) (v : α) (l : List (κ × α)) :
    lookup j (put k v l) = if k < j ∨ j < k then lookup j l else some v := by
  induction l with
  | nil => simp [put, lookup, or_comm]
  | cons q r ih =>
    obtain ⟨a, w⟩ := q
    rw [put]
    split
    · simp only [lookup, or_comm]
    next hk =>
      split
      next ha =>
        rw [lookup, ih, lookup]
        by_cases hj : j < a ∨ a < j
        · simp [hj]
        · have : j = a := KeyOrder.total (fun h => hj (.inl h)) (fun h => hj (.inr h))
          subst this
          simp [ha]
      next ha =>
        cases KeyOrder.total hk ha
        simp only [lookup, or_comm]
        split <;> rfl

/-- An insertion is seen at its key and nowhere else. -/
theorem find?_insert (m : KeyMap κ α) (k j : κ) (v : α) :
    (m.insert k v).find? j = if k < j ∨ j < k then m.find? j else some v :=
  lookup_put k j v m.entries

@[simp] theorem find?_insert_self (m : KeyMap κ α) (k : κ) (v : α) :
    (m.insert k v).find? k = some v := by
  have h : ¬ (k < k ∨ k < k) := by simp [KeyOrder.irrefl]
  rw [find?_insert, if_neg h]

theorem find?_insert_of_ne (m : KeyMap κ α) {k j : κ} (h : j ≠ k) (v : α) :
    (m.insert k v).find? j = m.find? j := by
  have hlt : k < j ∨ j < k := by
    by_cases hk : k < j
    · exact .inl hk
    · by_cases hj : j < k
      · exact .inr hj
      · exact absurd (KeyOrder.total hj hk) h
  rw [find?_insert, if_pos hlt]

end KeyMap

end MetricTables
