import MetricTables.Text.Blank

/-!
# Column types

The types that columns are created with, how a store's spelling of a type is read, and
which values a column of one type can take from a column of another.

## Main definitions

* `SqlType` — a column type.
* `SqlType.spelling` — how statements spell it.
* `SqlType.parse` — the type that a store's spelling means.
* `SqlType.canContain` — whether a column can take the values of a required type.
-/

namespace MetricTables

/-- A column type. -/
inductive SqlType where
  | smallInt
  | integer
  | bigInt
  | numeric
  | real
  | doublePrecision
  | boolean
  | text
  | timestamp
  | timestampTz
  /-- An unsigned integer of eight bytes. -/
  | uint8
  | jsonb
  /-- A type that is never asked for, in the spelling of the store. -/
  | other (spelling : String)
  deriving DecidableEq, Repr, Inhabited

namespace SqlType

/-- How statements spell a type. -/
def spelling : SqlType → String
  | .smallInt => "smallint"
  | .integer => "integer"
  | .bigInt => "bigint"
  | .numeric => "numeric"
  | .real => "real"
  | .doublePrecision => "double precision"
  | .boolean => "boolean"
  | .text => "text"
  | .timestamp => "timestamp without time zone"
  | .timestampTz => "timestamp with time zone"
  | .uint8 => "uint8"
  | .jsonb => "jsonb"
  | .other s => s

/-- The types with the names that mean them. -/
def names : List (String × SqlType) :=
  [("smallint", .smallInt), ("int2", .smallInt),
    ("integer", .integer), ("int", .integer), ("int4", .integer),
    ("bigint", .bigInt), ("int8", .bigInt),
    ("numeric", .numeric), ("decimal", .numeric),
    ("real", .real), ("float4", .real),
    ("double precision", .doublePrecision), ("double", .doublePrecision),
    ("float8", .doublePrecision), ("float", .doublePrecision),
    ("boolean", .boolean), ("bool", .boolean),
    ("text", .text), ("varchar", .text), ("character varying", .text),
    ("timestamp", .timestamp), ("timestamp without time zone", .timestamp),
    ("timestamptz", .timestampTz), ("timestamp with time zone", .timestampTz),
    ("uint8", .uint8),
    ("jsonb", .jsonb), ("json", .jsonb)]

/-- The characters outside of all parentheses, in lower case. A closing parenthesis
without an opening one is dropped. -/
def outside (depth : Nat) : List Char → List Char
  | [] => []
  | c :: cs =>
    if c = '(' then outside (depth + 1) cs
    else if c = ')' then outside (depth - 1) cs
    else if depth = 0 then c.toLower :: outside 0 cs
    else outside depth cs

/-- The name of a declared type: no parentheses, lower case, single spaces. -/
def baseName (declared : String) : String :=
  Text.join " " ((Text.words (outside 0 declared.toList)).map String.ofList)

/-- The type that a store's spelling means. Lengths and precisions do not count. -/
def parse (declared : String) : SqlType :=
  match names.lookup (baseName declared) with
  | some t => t
  | none => .other (Text.trim declared)

/-- Whether a column of the first type can take the values of the second. Of a type that
is not known the store decides when rows are written. -/
def canContain (existing required : SqlType) : Bool :=
  existing == required ||
  match existing, required with
  | .other _, _ => true
  | .bigInt, .smallInt | .bigInt, .integer => true
  | .integer, .smallInt => true
  | .numeric, .smallInt | .numeric, .integer | .numeric, .bigInt | .numeric, .uint8 |
    .numeric, .real | .numeric, .doublePrecision => true
  | .doublePrecision, .smallInt | .doublePrecision, .integer | .doublePrecision, .bigInt |
    .doublePrecision, .real => true
  | .real, .smallInt | .real, .integer => true
  | .timestamp, .timestampTz | .timestampTz, .timestamp => true
  | _, _ => false

/-- A column can take the values of its own type. -/
@[simp] theorem canContain_self (t : SqlType) : canContain t t = true := by simp [canContain]

end SqlType

end MetricTables
