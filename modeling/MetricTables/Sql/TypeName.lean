import MetricTables.Sql.Reader

/-!
# Declared types

A column definition names its type in one of many spellings. Words may be of either case
and blanks may stand anywhere, so a store keeps one spelling: lower case, arguments
without blanks. Types that no table here knows are kept as they are written.

## Main definitions

* `TypeName.families` — the types with a grammar of their own.
* `TypeName.read` — reads a type and gives the spelling that is kept.
-/

namespace MetricTables.Sql.TypeName

/-- What may stand in parentheses behind a type. -/
inductive Arguments where
  | none
  /-- A number. -/
  | length
  /-- A number, which may have a unit, or `MAX`. -/
  | characters
  /-- A number or two. -/
  | precision
  /-- Texts; they may not be left out. -/
  | texts
  deriving DecidableEq, Repr

/-- What may stand behind the arguments. -/
inductive Ending where
  | none
  /-- `UNSIGNED`. -/
  | sign
  /-- With or without time zone. -/
  | zone
  deriving DecidableEq, Repr

/-- Types of one grammar. -/
structure Family where
  words : List (List String)
  arguments : Arguments := .none
  ending : Ending := .none

/-- The types with a grammar of their own. Where one begins like another, the longer
comes first. -/
def families : List Family :=
  [{ words := [["BOOLEAN"], ["BOOL"], ["REAL"], ["FLOAT4"], ["FLOAT8"], ["FLOAT32"], ["FLOAT64"],
      ["INT16"], ["INT32"], ["INT64"], ["INT128"], ["INT256"], ["HUGEINT"], ["UBIGINT"],
      ["UHUGEINT"], ["USMALLINT"], ["UTINYINT"], ["UINT8"], ["UINT16"], ["UINT32"], ["UINT64"],
      ["UINT128"], ["UINT256"], ["DOUBLE", "PRECISION"], ["TEXT"], ["TINYTEXT"],
      ["MEDIUMTEXT"], ["LONGTEXT"], ["TINYBLOB"], ["MEDIUMBLOB"], ["LONGBLOB"], ["BYTEA"],
      ["UUID"], ["DATE"], ["DATE32"], ["TIMESTAMP_NTZ"], ["INTERVAL"], ["JSON"], ["JSONB"],
      ["REGCLASS"], ["TRIGGER"], ["TABLE"], ["SIGNED", "INTEGER"], ["SIGNED"],
      ["UNSIGNED", "INTEGER"], ["UNSIGNED"], ["TSVECTOR"], ["TSQUERY"], ["POINT"], ["LINE"],
      ["LSEG"], ["BOX"], ["PATH"], ["POLYGON"], ["CIRCLE"]] },
    { words := [["TINYINT"], ["SMALLINT"], ["MEDIUMINT"], ["INT"], ["INT2"], ["INT4"], ["INT8"],
        ["INTEGER"], ["BIGINT"]],
      arguments := .length, ending := .sign },
    { words := [["FLOAT"], ["CHARACTER", "LARGE", "OBJECT"], ["CHAR", "LARGE", "OBJECT"], ["CLOB"],
        ["BINARY"], ["BLOB"], ["BYTES"], ["BIT", "VARYING"], ["BIT"], ["VARBIT"], ["DATETIME"],
        ["STRING"], ["TIMESTAMPTZ"], ["TIMETZ"]],
      arguments := .length },
    { words := [["CHARACTER", "VARYING"], ["CHARACTER"], ["CHAR", "VARYING"], ["CHAR"], ["VARCHAR"],
        ["NVARCHAR"], ["VARBINARY"]],
      arguments := .characters },
    { words := [["DOUBLE"], ["NUMERIC"], ["DECIMAL"], ["DEC"], ["BIGNUMERIC"], ["BIGDECIMAL"]],
      arguments := .precision },
    { words := [["TIMESTAMP"], ["TIME"]], arguments := .length, ending := .zone },
    { words := [["ENUM"], ["SET"]], arguments := .texts }]

open Reader

/-- Reads a text in parentheses, which may be left out. -/
def inParentheses (r : Reader String) : Reader String := do
  match ← maybe (symbol "(") with
  | none => return ""
  | some () =>
    let s ← r
    symbol ")"
    return "(" ++ s ++ ")"

/-- The number of characters that a text may have. -/
def characterLength : Reader String :=
  (do keyword "MAX"; return "max") <|>
  (do
    let n ← whole
    (do keyword "CHARACTERS"; return n ++ " characters") <|>
      (do keyword "OCTETS"; return n ++ " octets") <|>
      return n)

def quotedText : Reader String := do
  let s ← literal
  return Text.lower ("'" ++ String.ofList (Name.showQuotes '\'' false s.toList) ++ "'")

/-- The arguments of a type as they are kept. -/
def readArguments : Arguments → Reader String
  | .none => return ""
  | .length => inParentheses whole
  | .characters => inParentheses characterLength
  | .precision => inParentheses do return Text.join "," (← separated whole)
  | .texts => do
    return "(" ++ Text.join ", " (← parenthesized (separated quotedText)) ++ ")"

/-- What stands behind the arguments of a type, as it is kept. -/
def readEnding : Ending → Reader String
  | .none => return ""
  | .sign => (do keyword "UNSIGNED"; return " unsigned") <|> return ""
  | .zone =>
    (do keywords ["WITH", "TIME", "ZONE"]; return " with time zone") <|>
    (do keywords ["WITHOUT", "TIME", "ZONE"]; return " without time zone") <|>
    return ""

def readWords (f : Family) (words : List String) : Reader String := do
  keywords words
  let arguments ← readArguments f.arguments
  let ending ← readEnding f.ending
  return (Text.join " " words).toLower ++ arguments ++ ending

/-- Reads a type with a grammar of its own. -/
def readKnown : Reader String :=
  (families.flatMap fun f => f.words.map fun ws => readWords f ws).firstM id

/-- One modifier of a type without a grammar of its own, or a comma. -/
def modifier : Reader (Option String) := fun ts =>
  match ts with
  | .word w :: r => some (some w, r)
  | .quoted s :: r => some (some ("\"" ++ s ++ "\""), r)
  | .number d :: r => some (some d, r)
  | .literal s :: r => some (some s, r)
  | .symbol "," :: r => some (none, r)
  | _ => none

/-- Reads a type without a grammar of its own: a name and modifiers. -/
def readNamed : Reader String := do
  let n ← qualifiedName
  let modifiers ← maybe (parenthesized (many modifier))
  let texts := (modifiers.getD []).filterMap id
  return Text.lower
    (n.shown ++ if texts.isEmpty then "" else "(" ++ Text.join ", " texts ++ ")")

def readBound : Reader String := do
  symbol "["
  let n ← maybe whole
  symbol "]"
  return "[" ++ n.getD "" ++ "]"

/-- Whether a type begins with the token by which a known type begins and which cannot
begin a name. -/
def beginsKnown (t : Token) : Bool :=
  families.any fun f => f.words.any fun ws => (ws.head?.any fun w => t.isKeyword w)

/-- Reads a type and gives the spelling that is kept. -/
def read : Reader String := do
  let base ← if ← follows beginsKnown then readKnown else
    if ← follows (fun t => t.isWord && !t.isKeyword "ARRAY") then readNamed else failure
  let bounds ← many readBound
  return base ++ String.join bounds

/-- The words of a type as they are written, up to its arguments. -/
def wordsOf (tokens : List Token) : String :=
  Text.join " " <| (tokens.takeWhile Token.isWord).filterMap fun t => (name? t).map Name.text

end MetricTables.Sql.TypeName
