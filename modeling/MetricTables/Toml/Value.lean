/-!
# TOML values

The values that a TOML document holds. Dates and times are kept as their text, since no
setting is one.

## Main definitions

* `Toml` — a TOML value.
* `Toml.Node` — a place of a document under construction.
* `Toml.Node.table?`, `Node.assign?`, `Node.append?` — a header, a key with a value and a
  header of an array of tables, each applied to a document.
-/

namespace MetricTables

/-- A TOML value. The entries of a table stand in the order of the document. -/
inductive Toml where
  | string (s : String)
  | integer (n : Int)
  | float (x : Float)
  | boolean (b : Bool)
  | dateTime (text : String)
  | array (items : List Toml)
  | table (entries : List (String × Toml))
  deriving Inhabited

namespace Toml

/-- How a table came to be: named by a header, on the way to a header, or on the way to a
dotted key. Only the second may still get a header of its own, and only the third may
still be extended by dotted keys. -/
inductive Origin where
  | header
  | implied
  | dotted
  deriving DecidableEq, Repr

/-- A place of a document under construction: a finished value, a table that may grow, or
an array of tables of which the last may grow. -/
inductive Node where
  | value (v : Toml)
  | table (origin : Origin) (entries : List (String × Node))
  | tables (earlier : List Toml) (last : List (String × Node))
  deriving Inhabited

namespace Node

mutual

def finish : Node → Toml
  | .value v => v
  | .table _ entries => .table (finishEntries entries)
  | .tables earlier last => .array (earlier ++ [.table (finishEntries last)])

def finishEntries : List (String × Node) → List (String × Toml)
  | [] => []
  | (k, n) :: r => (k, finish n) :: finishEntries r

end

/-- The entry of a key, if the table has it. -/
def nodeAt? (k : String) (entries : List (String × Node)) : Option Node :=
  (entries.find? (·.1 == k)).map (·.2)

/-- The entries with a new node under a key, at the key's place if it has one. -/
def setEntry (k : String) (n : Node) (entries : List (String × Node)) : List (String × Node) :=
  if entries.any (·.1 == k) then entries.map fun e => if e.1 == k then (k, n) else e
  else entries ++ [(k, n)]

/-- Changes the entries of the table at the end of a path of headers. Tables that are
missing on the way are implied. -/
def atHeader? (edit : List (String × Node) → Option (List (String × Node))) :
    List String → List (String × Node) → Option (List (String × Node))
  | [], entries => edit entries
  | k :: path, entries => do
    match nodeAt? k entries with
    | none => return setEntry k (.table .implied (← atHeader? edit path [])) entries
    | some (.table origin inner) =>
      return setEntry k (.table origin (← atHeader? edit path inner)) entries
    | some (.tables earlier last) =>
      return setEntry k (.tables earlier (← atHeader? edit path last)) entries
    | some (.value _) => none

/-- Opens the table `k` for a header. It may exist only as implied by another header. -/
def openTable? (k : String) (entries : List (String × Node)) : Option (List (String × Node)) :=
  match nodeAt? k entries with
  | none => some (setEntry k (.table .header []) entries)
  | some (.table .implied inner) => some (setEntry k (.table .header inner) entries)
  | some _ => none

def openNext? (k : String) (entries : List (String × Node)) : Option (List (String × Node)) :=
  match nodeAt? k entries with
  | none => some (setEntry k (.tables [] []) entries)
  | some (.tables earlier last) =>
    some (setEntry k (.tables (earlier ++ [.table (finishEntries last)]) []) entries)
  | some _ => none

/-- Puts a value under a dotted key. Tables on the way come from dotted keys only. -/
def assign? (v : Toml) : List String → List (String × Node) → Option (List (String × Node))
  | [], _ => none
  | [k], entries =>
    if (nodeAt? k entries).isSome then none else some (setEntry k (.value v) entries)
  | k :: path, entries => do
    match nodeAt? k entries with
    | none => return setEntry k (.table .dotted (← assign? v path [])) entries
    | some (.table .dotted inner) =>
      return setEntry k (.table .dotted (← assign? v path inner)) entries
    | some (.table .implied inner) =>
      -- a longer key may pass through an implied table to dotted ones below it
      if path.length > 1 then return setEntry k (.table .implied (← assign? v path inner)) entries
      else none
    | some (.tables earlier last) =>
      if path.length > 1 then return setEntry k (.tables earlier (← assign? v path last)) entries
      else none
    | some _ => none

end Node

end Toml

end MetricTables
