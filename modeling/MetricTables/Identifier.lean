/-!
# Identifiers

Names of tables and columns: how long they may be and how a statement quotes them.

## Main definitions

* `Identifier.fits` — whether a name is short enough for the store.
* `Identifier.quote` — a name between double quotes.
* `Identifier.qualified` — a name with its namespace.

## Main statements

* `Identifier.unescape_escape` — quoting loses nothing.
-/

namespace MetricTables.Identifier

/-- Whether a name is at most `limit` bytes long in UTF-8. -/
def fits (limit : Nat) (name : String) : Bool := decide (name.utf8ByteSize ≤ limit)

/-- The characters of a name between its quotes: a quote is written twice. -/
def escape : List Char → List Char
  | [] => []
  | c :: cs => if c = '"' then '"' :: '"' :: escape cs else c :: escape cs

/-- Reads a name behind its opening quote up to the closing one, with what is left. -/
def unescape : List Char → Option (List Char × List Char)
  | [] => none
  | '"' :: '"' :: cs => (unescape cs).map fun (name, rest) => ('"' :: name, rest)
  | '"' :: cs => some ([], cs)
  | c :: cs => (unescape cs).map fun (name, rest) => (c :: name, rest)

/-- Quoting loses nothing, whatever stands behind the name other than one more quote. -/
theorem unescape_escape (name rest : List Char) (h : rest.head? ≠ some '"') :
    unescape (escape name ++ '"' :: rest) = some (name, rest) := by
  induction name with
  | nil =>
    cases rest with
    | nil => simp [escape, unescape]
    | cons c cs =>
      have : c ≠ '"' := by simpa using h
      simp [escape, unescape, this]
  | cons c cs ih =>
    by_cases hc : c = '"'
    · subst hc
      simp [escape, unescape, ih]
    · simp [escape, unescape, hc, ih]

def quote (name : String) : String :=
  String.ofList ('"' :: (escape name.toList ++ ['"']))

/-- A quoted name behind its quoted namespace; an empty namespace is left out. -/
def qualified (namespaceName name : String) : String :=
  if namespaceName.isEmpty then quote name else quote namespaceName ++ "." ++ quote name

end MetricTables.Identifier
