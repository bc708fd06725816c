import MetricTables.Text.Blank
import MetricTables.Time.Duration

/-!
# Settings

The settings of a run in three sections: how much is logged, where the store is, and how
tables are laid out. Every setting has a default, so an empty document is a whole
configuration. Settings that cannot work together are refused.

## Main definitions

* `Config` — all settings.
* `Config.check` — the first setting that cannot be used.
-/

namespace MetricTables

/-- How much is logged. -/
inductive LogLevel where
  | trace
  | debug
  | info
  | warn
  | error
  deriving DecidableEq, Repr, Inhabited

namespace LogLevel

def name : LogLevel → String
  | .trace => "trace"
  | .debug => "debug"
  | .info => "info"
  | .warn => "warn"
  | .error => "error"

def all : List LogLevel := [.trace, .debug, .info, .warn, .error]

/-- The filter for a level. The storage engine logs warnings only, unless everything is
asked for or only warnings and errors are. -/
def directive (l : LogLevel) : String :=
  match l with
  | .debug | .info => l.name ++ ",turso_core=warn"
  | _ => l.name

end LogLevel

/-- The form of a log line. -/
inductive LogFormat where
  | console
  | json
  deriving DecidableEq, Repr, Inhabited

namespace LogFormat

def name : LogFormat → String
  | .console => "console"
  | .json => "json"

def all : List LogFormat := [.console, .json]

end LogFormat

/-- The column type of an unsigned integer. -/
inductive UnsignedType where
  /-- A decimal number, which every store has. -/
  | numeric
  /-- An unsigned integer of eight bytes. -/
  | uint8
  deriving DecidableEq, Repr, Inhabited

namespace UnsignedType

def name : UnsignedType → String
  | .numeric => "numeric"
  | .uint8 => "uint8"

def all : List UnsignedType := [.numeric, .uint8]

end UnsignedType

/-- The column type of the time column. -/
inductive TimestampType where
  | withoutTimeZone
  | withTimeZone
  deriving DecidableEq, Repr, Inhabited

namespace TimestampType

def name : TimestampType → String
  | .withoutTimeZone => "timestamp without time zone"
  | .withTimeZone => "timestamp with time zone"

def all : List TimestampType := [.withoutTimeZone, .withTimeZone]

end TimestampType

/-- What is logged and how. -/
structure LogConfig where
  level : LogLevel := .info
  format : LogFormat := .console
  deriving Repr, Inhabited

/-- Where the store is and how long it may take. -/
structure StoreConfig where
  path : String := ":memory:"
  /-- No call of the store may take longer. -/
  statementTimeout : Duration := .ofSeconds 10
  deriving Repr, Inhabited

/-- Whether the store ends with the run. -/
def StoreConfig.isMemory (c : StoreConfig) : Bool := c.path == ":memory:"

/-- The statement that creates a metric table. -/
def defaultCreateTemplate : String :=
  "CREATE TABLE \x7b\x7b table \x7d\x7d (\x7b\x7b columns \x7d\x7d)"

/-- The statement that adds a column. -/
def defaultAddColumnTemplate : String :=
  "ALTER TABLE \x7b\x7b table \x7d\x7d ADD COLUMN \x7b\x7b columns \x7d\x7d"

/-- The statement that creates a tag table, with its key. -/
def defaultTagTableCreateTemplate : String :=
  "CREATE TABLE \x7b\x7b table \x7d\x7d (\x7b\x7b columns \x7d\x7d, " ++
    "PRIMARY KEY (\x7b\x7b columns.tag_id.names \x7d\x7d))"

/-- The layout of tables. -/
structure SchemaConfig where
  /-- Where tables live; empty for the place that the store takes by itself. -/
  namespaceName : String := ""
  /-- Tags live in a table of their own that metric rows refer to. -/
  tagsAsForeignKeys : Bool := false
  tagTableSuffix : String := "_tag"
  /-- All tags of a record in one JSON column. -/
  tagsAsJson : Bool := false
  /-- All fields of a record in one JSON column. -/
  fieldsAsJson : Bool := false
  timestampColumnName : String := "time"
  timestampColumnType : TimestampType := .withoutTimeZone
  tagIdColumnName : String := "tag_id"
  unsignedType : UnsignedType := .numeric
  /-- The longest name that the store takes, in bytes. -/
  identifierMaxBytes : Nat := 63
  createTemplates : List String := [defaultCreateTemplate]
  addColumnTemplates : List String := [defaultAddColumnTemplate]
  tagTableCreateTemplates : List String := [defaultTagTableCreateTemplate]
  tagTableAddColumnTemplates : List String := [defaultAddColumnTemplate]
  deriving Repr, Inhabited

/-- All settings. -/
structure Config where
  log : LogConfig := {}
  store : StoreConfig := {}
  schema : SchemaConfig := {}
  deriving Repr, Inhabited

/-- Why a configuration is refused. -/
inductive ConfigError where
  /-- The document cannot be read, or a setting has no value of its kind. -/
  | unreadable
  /-- A setting is outside its range. -/
  | invalidValue (sectionName field reason : String)
  /-- Two settings exclude each other. -/
  | conflict (sectionName first second : String)
  deriving DecidableEq, Repr, Inhabited

def ConfigError.message : ConfigError → String
  | .unreadable => "failed to parse config"
  | .invalidValue s f r => "[" ++ s ++ "] has invalid " ++ f ++ ": " ++ r
  | .conflict s a b => "[" ++ s ++ "] " ++ a ++ " conflicts with " ++ b

namespace Config

/-- A name of a fixed column has to be there and to fit. -/
def checkColumnName (limit : Nat) (field value : String) : Except ConfigError Unit :=
  if value.isEmpty then .error (.invalidValue "schema" field "must not be empty")
  else if value.utf8ByteSize > limit then
    .error (.invalidValue "schema" field
      (toString value.utf8ByteSize ++ " bytes exceeds identifier_max_bytes (" ++
        toString limit ++ ")"))
  else .ok ()

/-- Refuses a store that has no place or no time. -/
def checkStore (c : StoreConfig) : Except ConfigError Unit :=
  if (Text.trim c.path).isEmpty then .error (.invalidValue "store" "path" "must not be empty")
  else if c.statementTimeout.nanos = 0 then
    .error (.invalidValue "store" "statement_timeout" "must be greater than 0")
  else .ok ()

/-- Refuses a layout whose fixed columns cannot be told apart or cannot be created. -/
def checkSchema (c : SchemaConfig) : Except ConfigError Unit := do
  if c.identifierMaxBytes = 0 then
    throw (.invalidValue "schema" "identifier_max_bytes" "must be greater than 0")
  checkColumnName c.identifierMaxBytes "timestamp_column_name" c.timestampColumnName
  checkColumnName c.identifierMaxBytes "tag_id_column_name" c.tagIdColumnName
  if c.timestampColumnName = c.tagIdColumnName then
    throw (.conflict "schema" "timestamp_column_name" "tag_id_column_name")
  if c.tagTableSuffix.isEmpty then
    throw (.invalidValue "schema" "tag_table_suffix" "must not be empty")

/-- Refuses a configuration with its first unusable setting. -/
def check (c : Config) : Except ConfigError Unit := do
  checkStore c.store
  checkSchema c.schema

end Config

end MetricTables
