import MetricTables.Column
import MetricTables.KeyMap

/-!
# Table definitions

What is known of the columns of a table. Nothing is known of a table without known
columns, since a table that exists has at least one.

## Main definitions

* `Definition` — the known columns of a table, by name.
* `Definition.gap` — what a table lacks of the columns that are required.
-/

namespace MetricTables

/-- The known columns of a table, by name. -/
structure Definition where
  byName : KeyMap String Column := .empty
  deriving DecidableEq, Repr, Inhabited

/-- Whether a column can take the values of another one. -/
def Column.holds (existing wanted : Column) : Bool :=
  existing.role == wanted.role && existing.type.canContain wanted.type

/-- What a table lacks. -/
structure Gap where
  /-- Columns that may be added. -/
  addable : List Column
  /-- Columns that the table cannot have. -/
  missing : List Column
  deriving DecidableEq, Repr, Inhabited

namespace Definition

/-- The definition of which nothing is known. -/
def unknown : Definition := {}

def isKnown (d : Definition) : Bool := !d.byName.isEmpty

def find? (d : Definition) (name : String) : Option Column := d.byName.find? name

/-- The known columns in table order. -/
def columns (d : Definition) : List Column := Column.sort (d.byName.entries.map (·.2))

def size (d : Definition) : Nat := d.byName.size

/-- The definition with a column, in the place of one that has its name. -/
def insert (d : Definition) (c : Column) : Definition := ⟨d.byName.insert c.name c⟩

def insertAll (d : Definition) (cs : List Column) : Definition := cs.foldl insert d

/-! ## Comparison with what is required -/

def absent (d : Definition) (required : List Column) : List Column :=
  required.filter fun c => (d.find? c.name).isNone

/-- The columns whose names are taken by columns that cannot take their values. -/
def conflicts (d : Definition) (required : List Column) : List Column :=
  required.filter fun c => (d.find? c.name).any fun existing => !existing.holds c

/-- What a table lacks: a name that is too long cannot be added. -/
def gap (d : Definition) (limit : Nat) (required : List Column) : Gap :=
  let absent := d.absent required
  { addable := absent.filter fun c => Identifier.fits limit c.name
    missing := d.conflicts required ++ absent.filter fun c => !Identifier.fits limit c.name }

end Definition

end MetricTables
