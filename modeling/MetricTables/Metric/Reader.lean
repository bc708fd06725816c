import MetricTables.Json.Tree
import MetricTables.Metric

/-!
# Reading metrics

Reads a record from a line of JSON: an object with a name and a timestamp, and with tags
and fields if it has any, or the list of these four values. Other members are skipped.

## Main definitions

* `Metric.read?` — the record of a line.
-/

namespace MetricTables.Metric

open Json (Tree)

def text? : Tree → Option String
  | .text s => s
  | _ => none

/-- The members of an object; every key has to be a text. -/
def members? (value? : Tree → Option α) (members : List (Option String × Tree)) :
    Option (List (String × α)) :=
  members.mapM fun (k, v) => do return (← k, ← value? v)

/-- A map of an object; the last value of a key counts. -/
def map? (value? : Tree → Option α) : Tree → Option (KeyMap String α)
  | .object ms => (members? value? ms).map KeyMap.ofList
  | _ => none

/-- A measured value: a number, a truth value or a text. -/
def fieldValue? : Tree → Option FieldValue
  | .number n =>
    n.value?.map fun
      | .int n => .int n
      | .uint n => .uint n
      | .float x => .float x
  | .bool b => some (.bool b)
  | .text s => s.map .text
  | _ => none

def tags? : Tree → Option Tags := map? text?

def fields? : Tree → Option Fields := map? fieldValue?

def timestamp? (t : Tree) : Option Instant := do Instant.read? (← text? t)

/-- The only value of a key, an inner nothing if the key does not occur, and nothing at all
if it occurs twice. -/
def single? (key : String) (members : List (String × Tree)) : Option (Option Tree) :=
  match members.filter (·.1 == key) with
  | [] => some none
  | [(_, v)] => some (some v)
  | _ => none

def ofMembers? (members : List (String × Tree)) : Option Metric := do
  let name ← text? (← (← single? "name" members))
  let tags ← match ← single? "tags" members with
    | none => some .empty
    | some t => tags? t
  let fields ← match ← single? "fields" members with
    | none => some .empty
    | some t => fields? t
  let timestamp ← timestamp? (← (← single? "timestamp" members))
  return ⟨name, tags, fields, timestamp⟩

def ofTree? : Tree → Option Metric
  | .object ms => (members? some ms).bind ofMembers?
  | .array [name, tags, fields, timestamp] => do
    return ⟨← text? name, ← tags? tags, ← fields? fields, ← timestamp? timestamp⟩
  | _ => none

def read? (line : String) : Option Metric := (Tree.read? line).bind ofTree?

end MetricTables.Metric
