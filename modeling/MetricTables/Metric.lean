import MetricTables.Config
import MetricTables.Hash.Xxh3
import MetricTables.Json
import MetricTables.KeyMap
import MetricTables.SqlType
import MetricTables.Time.Instant

/-!
# Metrics

One record of a time series: the name picks the table, the tags say which series it
belongs to, the fields are the measured values.

## Main definitions

* `FieldValue`, `Tags`, `Metric` — a measured value, the tags, and the record.
* `FieldValue.resolve` — the column type of a value.
* `Tags.bytes`, `Tags.id` — the bytes that identify a tag set, and their hash.
-/

namespace MetricTables

/-- A measured value. -/
inductive FieldValue where
  | int (n : Int64)
  /-- An integer that is too large for a signed word. -/
  | uint (n : UInt64)
  | float (x : Float)
  | bool (b : Bool)
  | text (s : String)
  deriving Inhabited

namespace FieldValue

/-- The column type of a value. -/
def resolve (unsigned : UnsignedType) : FieldValue → SqlType
  | .int _ => .bigInt
  | .uint _ =>
    match unsigned with
    | .numeric => .numeric
    | .uint8 => .uint8
  | .float _ => .doublePrecision
  | .bool _ => .boolean
  | .text _ => .text

/-- The value in a JSON column. -/
def toJson : FieldValue → Json
  | .int n => .int n.toInt
  | .uint n => .int n.toNat
  | .float x => .ofFloat x
  | .bool b => .bool b
  | .text s => .text s

end FieldValue

/-- The tags of a record: keys in order, each with its value. -/
abbrev Tags := KeyMap String String

namespace Tags

/-- One end mark after each key and each value. -/
def entryBytes (e : String × String) : List UInt8 :=
  e.1.toUTF8.toList ++ 0 :: (e.2.toUTF8.toList ++ [0])

/-- The bytes that identify a tag set: keys and values in key order, each ended by a zero
byte. -/
def bytes (t : Tags) : List UInt8 := t.entries.flatMap entryBytes

/-- The key of a tag set in its table. -/
def id (t : Tags) : Int64 := (Hash.Xxh3.hash ⟨t.bytes.toArray⟩).toInt64

/-- The tags in a JSON column. -/
def toJson (t : Tags) : Json := .object (t.entries.map fun (k, v) => (k, .text v))

end Tags

/-- The fields of a record: keys in order, each with its value. -/
abbrev Fields := KeyMap String FieldValue

def Fields.toJson (f : Fields) : Json := .object (f.entries.map fun (k, v) => (k, v.toJson))

/-- One record of a time series. -/
structure Metric where
  /-- The table of the record. -/
  name : String
  tags : Tags
  fields : Fields
  timestamp : Instant
  deriving Inhabited

/-- The record as a line of JSON. -/
def Metric.compact (m : Metric) : String :=
  (Json.object [("name", .text m.name), ("tags", m.tags.toJson), ("fields", m.fields.toJson),
    ("timestamp", .text m.timestamp.text)]).compact

end MetricTables
