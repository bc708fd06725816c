import MetricTables.Decimal.Shortest
import MetricTables.Text.Literal

/-!
# JSON values

The values that a JSON column holds, with their two written forms: the compact text that
another program reads, and the form in which a listing of rows shows them.

## Main definitions

* `Json` — a JSON value.
* `Json.compact` — its text without blanks.
* `Json.listing` — its form in a listing of rows.
-/

namespace MetricTables

/-- A JSON value. Object members stand in the order in which they are written. -/
inductive Json where
  | null
  | bool (b : Bool)
  | int (n : Int)
  | float (x : Float)
  | text (s : String)
  | array (items : List Json)
  | object (members : List (String × Json))
  deriving Inhabited

namespace Json

/-- Numbers are positional from `1e-5` up to `1e16`; a tie goes to the even digit. -/
def numberStyle : Decimal.FloatStyle := ⟨1e-5, .toEven⟩

/-- A double as a JSON value; what is not finite has no number and becomes null. -/
def ofFloat (x : Float) : Json := if x.isFinite then .float x else .null

/-- One character of a JSON string: quotes, backslashes and controls are escaped. -/
def escapeChar (c : Char) : String :=
  if c = '"' then "\\\""
  else if c = '\\' then "\\\\"
  else if c = '\n' then "\\n"
  else if c = '\r' then "\\r"
  else if c = '\t' then "\\t"
  else if c.toNat = 8 then "\\b"
  else if c.toNat = 12 then "\\f"
  else if c.toNat < 0x20 then
    "\\u00" ++ (if c.toNat < 0x10 then "0" else "") ++ Text.hex c.toNat
  else c.toString

def quote (s : String) : String := "\"" ++ String.join (s.toList.map escapeChar) ++ "\""

mutual

/-- The text of a value without blanks. -/
def compact : Json → String
  | .null => "null"
  | .bool b => if b then "true" else "false"
  | .int n => toString n
  | .float x => numberStyle.write x
  | .text s => quote s
  | .array items => "[" ++ ",".intercalate (compactItems items) ++ "]"
  | .object members => "\x7b" ++ ",".intercalate (compactMembers members) ++ "\x7d"

def compactItems : List Json → List String
  | [] => []
  | v :: vs => compact v :: compactItems vs

def compactMembers : List (String × Json) → List String
  | [] => []
  | (k, v) :: ms => (quote k ++ ":" ++ compact v) :: compactMembers ms

end

mutual

/-- The form of a value in a listing of rows: each part under the name of its kind. -/
def listing : Json → String
  | .null => "Null"
  | .bool b => if b then "Bool(true)" else "Bool(false)"
  | .int n => "Number(" ++ toString n ++ ")"
  | .float x => "Number(" ++ numberStyle.write x ++ ")"
  | .text s => "String(" ++ Text.literal s ++ ")"
  | .array items => "Array [" ++ ", ".intercalate (listingItems items) ++ "]"
  | .object members => "Object \x7b" ++ ", ".intercalate (listingMembers members) ++ "\x7d"

def listingItems : List Json → List String
  | [] => []
  | v :: vs => listing v :: listingItems vs

def listingMembers : List (String × Json) → List String
  | [] => []
  | (k, v) :: ms => (Text.literal k ++ ": " ++ listing v) :: listingMembers ms

end

end Json

end MetricTables
