import MetricTables.Config
import MetricTables.Toml.Reader

/-!
# Configuration documents

Reads a configuration from a TOML document. A setting that is absent keeps its default, a
setting that nobody knows is skipped, and a section may also be given as the list of its
settings in order.

## Main definitions

* `Config.read` — the configuration of a document, checked.
-/

namespace MetricTables.Config

open Toml

/-- The settings of a section by name. A list gives them in the order of `names`. -/
def settings? (names : List String) : Toml → Option (List (String × Toml))
  | .table entries => some entries
  | .array items => some (names.zip items)
  | _ => none

/-- A setting: its default if it is absent, nothing if its value is of the wrong kind. -/
def setting {α : Type} (entries : List (String × Toml)) (name : String) (default : α)
    (read : Toml → Option α) : Option α :=
  match entries.find? (·.1 == name) with
  | none => some default
  | some (_, v) => read v

def string? : Toml → Option String
  | .string s => some s
  | _ => none

def boolean? : Toml → Option Bool
  | .boolean b => some b
  | _ => none

def natural? : Toml → Option Nat
  | .integer n => if 0 ≤ n then some n.toNat else none
  | _ => none

def strings? : Toml → Option (List String)
  | .array items => items.mapM string?
  | _ => none

def duration? : Toml → Option Duration
  | .string s => Duration.read? s
  | _ => none

/-- The name of a choice: a string, or a table with the name as its only key and nothing
under it. -/
def choiceName? : Toml → Option String
  | .string s => some s
  | .table [(k, .table [])] => some k
  | .table [(k, .array [])] => some k
  | _ => none

def choice? {α : Type} (all : List α) (name : α → String) (v : Toml) : Option α := do
  let s ← choiceName? v
  all.find? fun a => name a == s

def log? (v : Toml) : Option LogConfig := do
  let s ← settings? ["level", "format"] v
  let d : LogConfig := {}
  return {
    level := ← setting s "level" d.level (choice? LogLevel.all LogLevel.name)
    format := ← setting s "format" d.format (choice? LogFormat.all LogFormat.name) }

def store? (v : Toml) : Option StoreConfig := do
  let s ← settings? ["path", "statement_timeout"] v
  let d : StoreConfig := {}
  return {
    path := ← setting s "path" d.path string?
    statementTimeout := ← setting s "statement_timeout" d.statementTimeout duration? }

/-- The settings of the layout, in the order of a list. -/
def schemaNames : List String :=
  ["namespace", "tags_as_foreign_keys", "tag_table_suffix", "tags_as_jsonb", "fields_as_jsonb",
    "timestamp_column_name", "timestamp_column_type", "tag_id_column_name", "uint64_type",
    "identifier_max_bytes", "create_templates", "add_column_templates",
    "tag_table_create_templates", "tag_table_add_column_templates"]

def schema? (v : Toml) : Option SchemaConfig := do
  let s ← settings? schemaNames v
  let d : SchemaConfig := {}
  return {
    namespaceName := ← setting s "namespace" d.namespaceName string?
    tagsAsForeignKeys := ← setting s "tags_as_foreign_keys" d.tagsAsForeignKeys boolean?
    tagTableSuffix := ← setting s "tag_table_suffix" d.tagTableSuffix string?
    tagsAsJson := ← setting s "tags_as_jsonb" d.tagsAsJson boolean?
    fieldsAsJson := ← setting s "fields_as_jsonb" d.fieldsAsJson boolean?
    timestampColumnName := ← setting s "timestamp_column_name" d.timestampColumnName string?
    timestampColumnType := ← setting s "timestamp_column_type" d.timestampColumnType
      (choice? TimestampType.all TimestampType.name)
    tagIdColumnName := ← setting s "tag_id_column_name" d.tagIdColumnName string?
    unsignedType := ← setting s "uint64_type" d.unsignedType
      (choice? UnsignedType.all UnsignedType.name)
    identifierMaxBytes := ← setting s "identifier_max_bytes" d.identifierMaxBytes natural?
    createTemplates := ← setting s "create_templates" d.createTemplates strings?
    addColumnTemplates := ← setting s "add_column_templates" d.addColumnTemplates strings?
    tagTableCreateTemplates :=
      ← setting s "tag_table_create_templates" d.tagTableCreateTemplates strings?
    tagTableAddColumnTemplates :=
      ← setting s "tag_table_add_column_templates" d.tagTableAddColumnTemplates strings? }

/-- The configuration of the root table, unchecked. -/
def ofEntries? (entries : List (String × Toml)) : Option Config := do
  let d : Config := {}
  return {
    log := ← setting entries "log" d.log log?
    store := ← setting entries "store" d.store store?
    schema := ← setting entries "schema" d.schema schema? }

def read (document : String) : Except ConfigError Config := do
  match (Toml.read? document).bind ofEntries? with
  | none => throw .unreadable
  | some c =>
    check c
    return c

end MetricTables.Config
