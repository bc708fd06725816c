import MetricTables.Identifier
import MetricTables.SqlType

/-!
# Columns

A column has a name, a role and a type. The role says what the column holds and fixes its
place in a table: the time first, then the key of the tags, then tags, then fields.

## Main definitions

* `Role`, `Column` — what a column holds, and the column.
* `Column.sort` — columns in table order.
* `ColumnList` — columns in the order in which their names first came.

## Main statements

* `Column.mem_sort`, `Column.sorted_sort` — sorting keeps the columns and puts them in
  table order.
* `ColumnList.find?_push` — the first column of a name stays.
-/

namespace MetricTables

/-- What a column holds. -/
inductive Role where
  | time
  | tagId
  | tag
  | field
  deriving DecidableEq, Repr, Inhabited

namespace Role

/-- The place of a role in table order. -/
def rank : Role → Nat
  | .time => 0
  | .tagId => 1
  | .tag => 2
  | .field => 3

def name : Role → String
  | .time => "time"
  | .tagId => "tag_id"
  | .tag => "tag"
  | .field => "field"

theorem rank_injective {a b : Role} (h : a.rank = b.rank) : a = b := by
  cases a <;> cases b <;> simp_all [rank]

end Role

/-- A table column. -/
structure Column where
  name : String
  role : Role
  type : SqlType
  deriving DecidableEq, Repr, Inhabited

namespace Column

def ofTag (name : String) : Column := ⟨name, .tag, .text⟩

/-- The quoted name and the type, as statements define a column. -/
def definition (c : Column) : String := Identifier.quote c.name ++ " " ++ c.type.spelling

/-- Rows cannot be written without the time and the key of their tags. -/
def isCritical (c : Column) : Bool := c.role == .time || c.role == .tagId

/-- Table order: by role, then by name. -/
def atMost (a b : Column) : Bool :=
  decide (a.role.rank < b.role.rank ∨ (a.role.rank = b.role.rank ∧ a.name ≤ b.name))

/-- Columns in table order; columns of one role and name keep their order. -/
def sort (cs : List Column) : List Column := cs.mergeSort atMost

theorem atMost_trans (a b c : Column) (hab : atMost a b) (hbc : atMost b c) : atMost a c := by
  simp only [atMost, decide_eq_true_eq] at *
  rcases hab with h | ⟨h, h'⟩ <;> rcases hbc with k | ⟨k, k'⟩
  · exact .inl (Nat.lt_trans h k)
  · exact .inl (k ▸ h)
  · exact .inl (h ▸ k)
  · exact .inr ⟨h.trans k, String.le_trans h' k'⟩

/-- Any two columns can be put in table order. -/
theorem atMost_total (a b : Column) : atMost a b || atMost b a := by
  simp only [atMost, Bool.or_eq_true, decide_eq_true_eq]
  rcases Nat.lt_trichotomy a.role.rank b.role.rank with h | h | h
  · exact .inl (.inl h)
  · rcases String.le_total a.name b.name with k | k
    · exact .inl (.inr ⟨h, k⟩)
    · exact .inr (.inr ⟨h.symm, k⟩)
  · exact .inr (.inl h)

/-- Sorting neither adds nor loses a column. -/
theorem sort_perm (cs : List Column) : (sort cs).Perm cs := List.mergeSort_perm cs atMost

@[simp] theorem mem_sort {c : Column} {cs : List Column} : c ∈ sort cs ↔ c ∈ cs :=
  (sort_perm cs).mem_iff

/-- Sorted columns are in table order. -/
theorem sorted_sort (cs : List Column) : (sort cs).Pairwise (fun a b => atMost a b) :=
  List.pairwise_mergeSort atMost_trans atMost_total cs

@[simp] theorem sort_nil : sort [] = [] := List.mergeSort_nil

end Column

def columnNames (cs : List Column) : String := Text.join ", " (cs.map (·.name))

/-- Columns in the order in which they were pushed. A name is taken by the first column
that has it. -/
structure ColumnList where
  columns : List Column := []
  deriving DecidableEq, Repr, Inhabited

namespace ColumnList

def empty : ColumnList := ⟨[]⟩

def find? (l : ColumnList) (name : String) : Option Column := l.columns.find? (·.name == name)

def contains (l : ColumnList) (name : String) : Bool := l.columns.any (·.name == name)

/-- Adds a column at the end, unless its name is taken. -/
def push (l : ColumnList) (c : Column) : ColumnList :=
  if l.contains c.name then l else ⟨l.columns ++ [c]⟩

def erase (l : ColumnList) (name : String) : ColumnList :=
  ⟨l.columns.eraseP (·.name == name)⟩

def size (l : ColumnList) : Nat := l.columns.length

def isEmpty (l : ColumnList) : Bool := l.columns.isEmpty

theorem contains_eq_isSome (l : ColumnList) (name : String) :
    l.contains name = (l.find? name).isSome := by
  rw [Bool.eq_iff_iff]
  simp [contains, find?]

/-- The first column of a name stays; a new name is found afterwards. -/
theorem find?_push (l : ColumnList) (c : Column) (name : String) :
    (l.push c).find? name = (l.find? name).or (if c.name = name then some c else none) := by
  unfold push
  split
  next h =>
    by_cases hn : c.name = name
    · subst hn
      rw [contains_eq_isSome] at h
      obtain ⟨d, hd⟩ := Option.isSome_iff_exists.1 h
      simp [hd]
    · simp [hn]
  next h =>
    by_cases hn : c.name = name
    · simp [find?, List.find?_append, hn]
    · simp [find?, List.find?_append, hn]

end ColumnList

end MetricTables
