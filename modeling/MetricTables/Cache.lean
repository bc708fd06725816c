import MetricTables.Definition

/-!
# The cache of definitions

Definitions by table. An entry comes up when its table is first asked for and stays;
forgetting a table makes its definition unknown, so that the store is asked again.

## Main definitions

* `Cache` — definitions by table.
* `Cache.clear`, `Cache.invalidate` — forget all tables, or one.

## Main statements

* `Cache.definition_put` — an entry is found under its table, and no other changes.
-/

namespace MetricTables

/-- Definitions by table. -/
structure Cache where
  entries : KeyMap String Definition := .empty
  deriving DecidableEq, Repr, Inhabited

namespace Cache

/-- The entry of a table, if the table was ever asked for. -/
def find? (c : Cache) (table : String) : Option Definition := c.entries.find? table

def definition (c : Cache) (table : String) : Definition := (c.find? table).getD .unknown

/-- The cache in which a table has an entry. -/
def reference (c : Cache) (table : String) : Cache := ⟨c.entries.insertNew table .unknown⟩

def put (c : Cache) (table : String) (d : Definition) : Cache := ⟨c.entries.insert table d⟩

/-- Forgets what is known of all tables. -/
def clear (c : Cache) : Cache := ⟨c.entries.map fun _ => .unknown⟩

/-- Forgets what is known of one table. -/
def invalidate (c : Cache) (table : String) : Cache :=
  if c.entries.contains table then c.put table .unknown else c

/-- The number of tables that were ever asked for. -/
def size (c : Cache) : Nat := c.entries.size

def isEmpty (c : Cache) : Bool := c.entries.isEmpty

/-- An entry is found under its table, and no other changes. -/
theorem definition_put (c : Cache) (table other : String) (d : Definition) :
    (c.put table d).definition other =
      if table < other ∨ other < table then c.definition other else d := by
  unfold definition find? put
  rw [KeyMap.find?_insert]
  split <;> rfl

end Cache

end MetricTables
