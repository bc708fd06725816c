import MetricTables.Metric
import MetricTables.Options

/-!
# Batches

The records of one batch for one table, with the columns that they need. Records widen
the columns; a column that the store cannot hold is dropped again, a field from every
row, a tag together with all records that carry it, since without the tag they would
fall into another series.

## Main definitions

* `Cell` — a value in a row.
* `TableBatch` — the records for one table.
* `TableBatch.push`, `TableBatch.dropColumn` — add a record, give up a column.
* `TableBatch.rows`, `TableBatch.tagRows` — the rows of the metric table and of the tag
  table.
* `TableBatch.ofMetrics` — a batch per table.
-/

namespace MetricTables

/-- A value in a row. -/
inductive Cell where
  | null
  | timestamp (t : Instant)
  | int (n : Int64)
  | uint (n : UInt64)
  | float (x : Float)
  | bool (b : Bool)
  | text (s : String)
  | json (v : Json)
  deriving Inhabited

namespace Cell

def ofField : FieldValue → Cell
  | .int n => .int n
  | .uint n => .uint n
  | .float x => .float x
  | .bool b => .bool b
  | .text s => .text s

/-- Numbers are positional from `1e-4` up to `1e16`; a tie goes up. -/
def numberStyle : Decimal.FloatStyle := ⟨1e-4, .up⟩

/-- A value in a listing of rows, under the name of its kind. -/
def listing : Cell → String
  | .null => "Null"
  | .timestamp t => "Timestamp(" ++ t.text ++ ")"
  | .int n => "Int(" ++ toString n.toInt ++ ")"
  | .uint n => "UInt(" ++ toString n.toNat ++ ")"
  | .float x => "Float(" ++ numberStyle.write x ++ ")"
  | .bool b => if b then "Bool(true)" else "Bool(false)"
  | .text s => "Text(" ++ Text.literal s ++ ")"
  | .json v => "Json(" ++ v.listing ++ ")"

def listingRow (row : List Cell) : String := "[" ++ Text.join ", " (row.map listing) ++ "]"

end Cell

/-- A record with the key of its tags. -/
structure Entry where
  tagId : Int64
  metric : Metric
  deriving Inhabited

/-- The records for one table. -/
structure TableBatch where
  name : String
  /-- Tag columns in the order in which tags first came. -/
  tagColumns : ColumnList := .empty
  /-- Field columns in the order in which fields first came. -/
  fieldColumns : ColumnList := .empty
  /-- The records, in the order in which they came. -/
  entries : List Entry := []
  /-- The tag sets of all records, by their keys. -/
  tagSets : KeyMap Int64 Tags := .empty
  /-- The keys of the tag sets that were given up. -/
  lostTagSets : List Int64 := []
  /-- The columns that were given up, in the order in which they were. -/
  dropped : List Column := []
  deriving Inhabited

namespace TableBatch

variable (o : Options)

/-! ## Columns -/

/-- The columns of the tags: one for all of them if they are kept as JSON. -/
def tagPart (b : TableBatch) : List Column :=
  if o.tagsAsJson then [o.tagsJsonColumn] else b.tagColumns.columns

/-- The columns of the fields: one for all of them if they are kept as JSON. -/
def fieldPart (b : TableBatch) : List Column :=
  if o.fieldsAsJson then [o.fieldsJsonColumn] else b.fieldColumns.columns

/-- The columns of the metric table: the time, the tags or their key, the fields. -/
def metricColumns (b : TableBatch) : List Column :=
  o.timeColumn ::
    ((if o.tagsAsForeignKeys then [o.tagIdColumn] else b.tagPart o) ++ b.fieldPart o)

/-- The columns of the tag table: the key, the tags. -/
def tagTableColumns (b : TableBatch) : List Column := o.tagIdColumn :: b.tagPart o

def columnNames (b : TableBatch) : List String := (b.metricColumns o).map (·.name)

def tagColumnNames (b : TableBatch) : List String := (b.tagTableColumns o).map (·.name)

/-! ## Adding a record -/

/-- The tags whose names no fixed column has. -/
def acceptedTags (tags : Tags) : Tags := tags.filter fun k _ => !o.isReserved k

/-- The fields whose names neither a fixed column nor a tag of the record has, nor a tag
column that shares the table. -/
def acceptedFields (b : TableBatch) (tags : Tags) (fields : Fields) : Fields :=
  fields.filter fun k _ =>
    !(o.isReserved k || tags.contains k || (o.sharesNames && b.tagColumns.contains k))

/-- Takes a field out of every record and its column out of the columns. -/
def withoutField (b : TableBatch) (name : String) : TableBatch :=
  { b with
    fieldColumns := b.fieldColumns.erase name
    entries := b.entries.map fun e =>
      { e with metric := { e.metric with fields := e.metric.fields.erase name } } }

/-- Makes room for a tag. A field of the same table gives way to it, whichever of the two
came first. -/
def addTagColumn (b : TableBatch) (name : String) : TableBatch :=
  let b := if o.sharesNames && b.fieldColumns.contains name then b.withoutField name else b
  { b with tagColumns := b.tagColumns.push (.ofTag name) }

/-- Makes room for a field. -/
def addFieldColumn (b : TableBatch) (name : String) (v : FieldValue) : TableBatch :=
  { b with fieldColumns := b.fieldColumns.push ⟨name, .field, v.resolve o.unsignedType⟩ }

/-- Makes room for all tags and fields of a record. -/
def widen (b : TableBatch) (tags : Tags) (fields : Fields) : TableBatch :=
  let b := if o.tagsAsJson then b else tags.keys.foldl (addTagColumn o) b
  if o.fieldsAsJson then b
  else fields.entries.foldl (fun b e => b.addFieldColumn o e.1 e.2) b

/-- Adds a record. -/
def push (b : TableBatch) (m : Metric) : TableBatch :=
  let tags := acceptedTags o m.tags
  let fields := b.acceptedFields o tags m.fields
  let b := b.widen o tags fields
  { b with
    entries := b.entries ++ [⟨tags.id, { m with tags, fields }⟩]
    tagSets := b.tagSets.insertNew tags.id tags }

/-! ## Giving up a column -/

/-- Whether the column is needed by every row, or holds more than one tag or field. -/
def isUndroppable (c : Column) : Bool :=
  match c.role with
  | .time | .tagId => true
  | .tag => o.tagsAsJson
  | .field => o.fieldsAsJson

/-- Gives up a tag, with all records that carry it. A tag without a column stays as it is. -/
def dropTag (b : TableBatch) (name : String) : TableBatch :=
  match b.tagColumns.find? name with
  | none => b
  | some c =>
    { b with
      tagColumns := b.tagColumns.erase name
      lostTagSets := b.lostTagSets ++ (b.tagSets.filter fun _ tags => tags.contains name).keys
      dropped := b.dropped ++ [c] }

/-- Gives up a field. A field without a column stays as it is. -/
def dropField (b : TableBatch) (name : String) : TableBatch :=
  match b.fieldColumns.find? name with
  | none => b
  | some c =>
    { b with fieldColumns := b.fieldColumns.erase name, dropped := b.dropped ++ [c] }

/-- Gives up a column that the store cannot hold. -/
def dropColumn (b : TableBatch) (c : Column) : Except SchemaError TableBatch :=
  if isUndroppable o c then .error (.criticalColumn c.name)
  else if c.role == .tag then .ok (b.dropTag c.name)
  else .ok (b.dropField c.name)

/-! ## Rows -/

/-- Whether the tag set of a key is still to be written. -/
def isKept (b : TableBatch) (tagId : Int64) : Bool := !b.lostTagSets.contains tagId

/-- The records that are still to be written. -/
def kept (b : TableBatch) : List Entry := b.entries.filter fun e => b.isKept e.tagId

/-- The number of records that are still to be written. -/
def recordCount (b : TableBatch) : Nat := b.kept.length

def tagCell (c : Column) (tags : Tags) : Cell :=
  if o.tagsAsJson then .json tags.toJson
  else match tags.find? c.name with
    | some v => .text v
    | none => .null

def fieldCell (c : Column) (fields : Fields) : Cell :=
  if o.fieldsAsJson then .json fields.toJson
  else match fields.find? c.name with
    | some v => .ofField v
    | none => .null

def cell (c : Column) (e : Entry) : Cell :=
  match c.role with
  | .time => .timestamp e.metric.timestamp
  | .tagId => .int e.tagId
  | .tag => tagCell o c e.metric.tags
  | .field => fieldCell o c e.metric.fields

/-- The rows of the metric table, their cells in the order of its columns. -/
def rows (b : TableBatch) : List (List Cell) :=
  b.kept.map fun e => (b.metricColumns o).map fun c => cell o c e

/-- The tag sets that are still to be written, in the order of their keys. -/
def keptTagSets (b : TableBatch) : KeyMap Int64 Tags := b.tagSets.filter fun id _ => b.isKept id

/-- The rows of the tag table, one per tag set. -/
def tagRows (b : TableBatch) : List (List Cell) :=
  b.keptTagSets.entries.map fun (id, tags) =>
    .int id :: (b.tagPart o).map fun c => tagCell o c tags

/-! ## All tables of a batch -/

def pushTo (batches : KeyMap String TableBatch) (m : Metric) : KeyMap String TableBatch :=
  let b := (batches.find? m.name).getD { name := m.name }
  batches.insert m.name (b.push o m)

/-- A batch per table. -/
def ofMetrics (ms : List Metric) : KeyMap String TableBatch := ms.foldl (pushTo o) .empty

end TableBatch

end MetricTables
