import MetricTables.Config
import MetricTables.SchemaError
import MetricTables.Template.Reader

/-!
# Layout options

The layout settings in the form that is worked with: templates are read, and the fixed
columns are built.

## Main definitions

* `Options` — the layout of tables.
* `Options.ofConfig` — the options of a configuration.
-/

namespace MetricTables

def tagsJsonName : String := "tags"

def fieldsJsonName : String := "fields"

/-- The layout of tables. -/
structure Options where
  namespaceName : String
  tagsAsForeignKeys : Bool
  tagTableSuffix : String
  tagsAsJson : Bool
  fieldsAsJson : Bool
  unsignedType : UnsignedType
  identifierMaxBytes : Nat
  statementTimeout : Duration
  timeColumn : Column
  tagIdColumn : Column
  createTemplates : List Template
  addColumnTemplates : List Template
  tagTableCreateTemplates : List Template
  tagTableAddColumnTemplates : List Template
  deriving Inhabited

namespace Options

/-- How long a call of the store may take if nothing else is said. -/
def defaultTimeout : Duration := .ofSeconds 10

def tagsJsonColumn (_ : Options) : Column := ⟨tagsJsonName, .tag, .jsonb⟩

def fieldsJsonColumn (_ : Options) : Column := ⟨fieldsJsonName, .field, .jsonb⟩

/-- A template, or the failure that names its text. -/
def readTemplate (source : String) : Except SchemaError Template :=
  (Template.parse source).mapError (.template source)

/-- The templates of some texts, or the failure of the first that is none. -/
def readTemplates (sources : List String) : Except SchemaError (List Template) :=
  sources.mapM readTemplate

def timestampType : TimestampType → SqlType
  | .withoutTimeZone => .timestamp
  | .withTimeZone => .timestampTz

/-- The options of a configuration. -/
def ofConfig (c : SchemaConfig) : Except SchemaError Options := do
  if c.timestampColumnName = c.tagIdColumnName then
    throw (.sameFixedColumns c.timestampColumnName)
  let create ← readTemplates c.createTemplates
  let addColumn ← readTemplates c.addColumnTemplates
  let tagCreate ← readTemplates c.tagTableCreateTemplates
  let tagAddColumn ← readTemplates c.tagTableAddColumnTemplates
  return {
    namespaceName := c.namespaceName
    tagsAsForeignKeys := c.tagsAsForeignKeys
    tagTableSuffix := c.tagTableSuffix
    tagsAsJson := c.tagsAsJson
    fieldsAsJson := c.fieldsAsJson
    unsignedType := c.unsignedType
    identifierMaxBytes := c.identifierMaxBytes
    statementTimeout := defaultTimeout
    timeColumn := ⟨c.timestampColumnName, .time, timestampType c.timestampColumnType⟩
    tagIdColumn := ⟨c.tagIdColumnName, .tagId, .bigInt⟩
    createTemplates := create
    addColumnTemplates := addColumn
    tagTableCreateTemplates := tagCreate
    tagTableAddColumnTemplates := tagAddColumn }

def tagTableName (o : Options) (metricTable : String) : String := metricTable ++ o.tagTableSuffix

/-- The quoted name of a table in the namespace of the layout. -/
def qualified (o : Options) (table : String) : String :=
  Identifier.qualified o.namespaceName table

/-- Whether a fixed column has the name, so that no tag and no field may have it. -/
def isReserved (o : Options) (name : String) : Bool :=
  name == o.timeColumn.name || name == o.tagIdColumn.name ||
    (o.tagsAsJson && name == tagsJsonName) || (o.fieldsAsJson && name == fieldsJsonName)

/-- Whether tags and fields are columns of one table and so share its names. -/
def sharesNames (o : Options) : Bool := !o.tagsAsJson && !o.fieldsAsJson

end Options

end MetricTables
