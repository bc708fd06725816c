import MetricTables.CommandLine.Help
import MetricTables.CommandLine.Host
import MetricTables.Config.Reader
import MetricTables.Matching
import MetricTables.Metric.Reader

/-!
# The commands

`apply` reads a batch of metrics, one JSON text a line, makes the database able to hold
it and reports which columns survived. `columns` shows the columns of a table.

## Main definitions

* `Report` — what a command leaves behind for its caller.
* `apply`, `columns` — the commands.
* `run` — the program on its arguments.
-/

namespace MetricTables.CommandLine

/-- What a command leaves behind for its caller. -/
structure Report where
  exit : UInt8 := 0
  output : String := ""
  /-- The reason of a failure. -/
  error : Option String := none
  deriving DecidableEq, Repr, Inhabited

namespace Report

def failed (reason : String) (output : String := "") : Report :=
  { exit := 1, output, error := some reason }

def badArguments : Report := { exit := 2 }

end Report

/-! ## Reading -/

/-- The metrics of some lines, of which the first has a number; or the number of the first
line that holds none. Blank lines count but hold nothing. -/
def metrics (number : Nat) : List String → Except Nat (List Metric)
  | [] => .ok []
  | line :: lines =>
    let line := Text.trim line
    if line.isEmpty then metrics (number + 1) lines
    else
      match Metric.read? line with
      | none => .error number
      | some m => do
        let more ← metrics (number + 1) lines
        return m :: more

def lines (text : String) : List String := (Text.splitOn '\n' text.toList).map String.ofList

variable {m : Type → Type} [Monad m] (h : Host m)

/-- Computations of a command, which fail with a reason. -/
abbrev Step (m : Type → Type) := ExceptT String m

/-- The configuration at a path; the default one if nothing stands there. -/
def loadConfig (path : String) : Step m Config := do
  match ← h.file path with
  | .absent => return {}
  | .unreadable => throw ("failed to load config " ++ path)
  | .text document =>
    match Config.read document with
    | .ok c => return c
    | .error _ => throw ("failed to load config " ++ path)

def loadMetrics (input : String) : Step m (List Metric) := do
  let file ← if input == "-" then h.standardInput else h.file input
  match file with
  | .absent => throw ("failed to open " ++ input)
  | .unreadable => throw "failed to read input"
  | .text content =>
    match metrics 1 (lines content) with
    | .ok ms => return ms
    | .error n => throw ("line " ++ toString n ++ ": invalid metric")

def openStore (c : Config) : Step m Database := do
  match ← h.openDatabase c.store.path with
  | some b => return b.prepared
  | none => throw ("failed to open store at " ++ c.store.path)

/-! ## Showing -/

/-- The text with blanks behind it, if it is shorter than the width. -/
def padded (width : Nat) (s : String) : String :=
  s ++ String.ofList (List.replicate (width - s.length) ' ')

def outcomeLines (o : Options) (b : TableBatch) (x : Outcome) (rows : Bool) : List String :=
  [b.name ++ ": " ++ toString b.recordCount ++ " records, columns: " ++
      Text.join ", " (b.columnNames o)] ++
  (if o.tagsAsForeignKeys then
    [o.tagTableName b.name ++ ": " ++ toString (b.tagRows o).length ++ " tag sets, columns: " ++
      Text.join ", " (b.tagColumnNames o)]
  else []) ++
  (x.tagTableMissing.map fun c =>
    "  missing tag column " ++ c.name ++ " (" ++ c.type.spelling ++ "), records dropped") ++
  (x.metricTableMissing.map fun c =>
    "  missing column " ++ c.name ++ " (" ++ c.type.spelling ++ "), omitted") ++
  (if rows then (b.rows o).map fun row => "  " ++ Cell.listingRow row else [])

def columnLine (name type comment : String) : String :=
  "  " ++ padded 32 name ++ " " ++ padded 32 type ++ " " ++ comment

def columnLines (columns : List StoredColumn) : List String :=
  columnLine "Column" "Type" "Comment" ::
    ("  " ++ String.ofList (List.replicate 72 '-')) ::
    columns.map fun c => columnLine c.name c.type (c.comment.getD "")

/-! ## Commands -/

/-- Matches batches one after the other. Gives the lines on them and how many failed. -/
def matchAll (o : Options) (retries : Nat) (rows : Bool) :
    List TableBatch → Manager Database → (List String × Nat) × Manager Database
  | [], manager => (([], 0), manager)
  | b :: bs, manager =>
    let (result, w) := matchWithRetry o retries { manager, batch := b }
    let ((more, failed), manager) := matchAll o retries rows bs w.manager
    match result with
    | .ok x => ((outcomeLines o w.batch x rows ++ more, failed), manager)
    | .error e => (((b.name ++ ": failed: " ++ e.message) :: more, failed + 1), manager)

/-- Makes the database able to hold a batch of metrics. -/
def apply (c : Config) (input : String) (retries : Nat) (rows : Bool) : Step m Report := do
  let ms ← loadMetrics h input
  let options ← match Options.ofConfig c.schema with
    | .ok o => pure { o with statementTimeout := c.store.statementTimeout }
    | .error _ => throw "invalid [schema] configuration"
  let database ← openStore h c
  let batches := (TableBatch.ofMetrics options ms).entries.map (·.2)
  let ((shown, failed), manager) := matchAll options retries rows batches { store := database }
  h.keepDatabase c.store.path manager.store
  if failed = 0 then return { output := unlines shown }
  else
    return .failed (toString failed ++ " of " ++ toString batches.length ++ " tables failed")
      (unlines shown)

def columns (c : Config) (table : String) : Step m Report := do
  let database ← openStore h c
  h.keepDatabase c.store.path database
  match database.columns c.schema.namespaceName table with
  | .error _ => throw "failed to read table structure"
  | .ok none => return { output := unlines ["Table " ++ table ++ " does not exist."] }
  | .ok (some cs) => return { output := unlines (columnLines cs) }

def invoke (i : Invocation) : m Report := do
  let result ← ExceptT.run do
    let c ← loadConfig h i.configPath
    match i.command with
    | .apply input retries rows => apply h c input retries rows
    | .columns table => columns h c table
  match result with
  | .ok r => return r
  | .error reason => return .failed reason

def run (words : List String) : m Report :=
  match Arguments.read words with
  | .run i => invoke h i
  | .help t => return { output := help t }
  | .version => return { output := versionLine }
  | .invalid => return .badArguments

end MetricTables.CommandLine
