import MetricTables.Sql.TypeName

/-!
# Expressions and queries

Readers that go over expressions and queries and keep what these ask for: the columns
that are named and the tables that are read. What they compute is not kept, so the order
in which operators bind plays no part. Expressions may stand in each other up to a
fixed depth.

## Main definitions

* `References` — the tables and columns that a query names.
* `expression`, `query` — the references of an expression and of a query.
-/

namespace MetricTables.Sql

open Reader

/-- The tables and columns that a query names. -/
structure References where
  tables : List QualifiedName := []
  columns : List Name := []
  deriving DecidableEq, Repr, Inhabited

namespace References

instance : Append References :=
  ⟨fun a b => { tables := a.tables ++ b.tables, columns := a.columns ++ b.columns }⟩

def concat (parts : List References) : References := parts.foldl (· ++ ·) {}

/-- What a query inside an expression asks for is a matter of its own. -/
def hidden (_ : References) : References := {}

end References

/-- Goes over what is read between commas. -/
def listOf (r : Reader References) : Reader References := do
  return .concat (← separated r)

namespace Expression

/-! ## Operands -/

def branches (inner : Reader References) : Reader References := do
  let whens ← many do
    keyword "WHEN"
    let test ← inner
    keyword "THEN"
    return test ++ (← inner)
  if whens.isEmpty then failure
  let other ← maybe do keyword "ELSE"; inner
  keyword "END"
  return .concat whens ++ other.getD {}

/-- Reads the arguments of a call behind the opening parenthesis. -/
def arguments (inner : Reader References) (query : Reader References) : Reader References := do
  let argument : Reader References :=
    (do symbol "*"; return {}) <|>
    (do
      skip (keyword "DISTINCT" <|> keyword "ALL")
      skip do discard name; symbol "=>"
      let e ← inner
      skip (oneOf ["ASC", "DESC"])
      return e)
  (do symbol ")"; return {}) <|>
  (do let q ← query; symbol ")"; return q.hidden) <|>
  (do
    let args ← listOf argument
    let order ← maybe do keywords ["ORDER", "BY"]; listOf (do
      let e ← inner
      skip (oneOf ["ASC", "DESC"])
      return e)
    symbol ")"
    return args ++ order.getD {})

/-- Reads what may stand behind a call: a filter and a window. -/
def window (inner : Reader References) : Reader References := do
  let filter ← maybe do
    keyword "FILTER"
    parenthesized do keyword "WHERE"; inner
  let span ← maybe do
    keyword "OVER"
    (do
      parenthesized do
        let parts ← maybe do keywords ["PARTITION", "BY"]; listOf inner
        let order ← maybe do keywords ["ORDER", "BY"]; listOf (do
          let e ← inner
          skip (oneOf ["ASC", "DESC"])
          return e)
        return parts.getD {} ++ order.getD {}) <|>
    (do discard name; return {})
  return filter.getD {} ++ span.getD {}

/-- Reads a name: a column, or a function with its arguments. -/
def named (inner : Reader References) (query : Reader References) : Reader References := do
  if !(← follows Token.isWord) then failure
  let n ← qualifiedName
  match ← maybe (symbol "(") with
  | some () => return (← arguments inner query) ++ (← window inner)
  | none => return { columns := (n.getLast?).toList }

def operand (inner : Reader References) (query : Reader References) : Reader References :=
  (do discard (satisfying isConstant); return {}) <|>
  (do
    discard (satisfying fun t => ["-", "+", "~", "@", "|/", "||/", "!!"].any fun s =>
      t == .symbol s)
    inner) <|>
  (do keyword "NOT"; inner) <|>
  (do keyword "EXISTS"; return (← parenthesized query).hidden) <|>
  (do
    keyword "CASE"
    if ← follows (Token.isKeyword "WHEN") then branches inner
    else return (← inner) ++ (← branches inner)) <|>
  (do
    oneOf ["CAST", "TRY_CAST"]
    parenthesized do
      let e ← inner
      keyword "AS"
      discard TypeName.read
      return e) <|>
  (do
    keyword "EXTRACT"
    parenthesized do
      discard name
      keyword "FROM"
      inner) <|>
  (do
    keyword "INTERVAL"
    discard literal
    skip (oneOf ["YEAR", "MONTH", "DAY", "HOUR", "MINUTE", "SECOND"])
    return {}) <|>
  (do
    keyword "ARRAY"
    symbol "["
    let items ← maybe (listOf inner)
    symbol "]"
    return items.getD {}) <|>
  (do keyword "ARRAY"; return (← parenthesized query).hidden) <|>
  (do discard TypeName.readKnown; discard (satisfying isConstant); return {}) <|>
  named inner query <|>
  (do return (← parenthesized query).hidden) <|>
  parenthesized (listOf inner)

/-! ## What follows an operand -/

/-- An operator between two operands. -/
def isInfix : Token → Bool
  | .symbol s =>
    let notInfix := ["(", ")", "[", "]", ",", ";", ".", ":", "::", ":=", "\x7b", "\x7d", "\\"]
    !notInfix.contains s && s.toList.all fun c => "+-*/<>=~!@#%^&|?".toList.contains c
  | _ => false

/-- Reads operands with operators between them. -/
def arithmetic (inner : Reader References) (query : Reader References) : Reader References := do
  let first ← operand inner query
  let more ← many do
    discard (satisfying isInfix)
    operand inner query
  return first ++ .concat more

/-- Reads a membership, a range or a pattern, each of which may be negated. -/
def comparison (inner : Reader References) (query : Reader References) : Reader References := do
  skip (keyword "NOT")
  (do keyword "IN"; return (← parenthesized query).hidden) <|>
  (do keyword "IN"; parenthesized (listOf inner)) <|>
  (do
    keyword "BETWEEN"
    let low ← arithmetic inner query
    keyword "AND"
    return low ++ (← arithmetic inner query)) <|>
  (do
    oneOf ["LIKE", "ILIKE", "RLIKE", "REGEXP"] <|> keywords ["SIMILAR", "TO"]
    let pattern ← arithmetic inner query
    skip do keyword "ESCAPE"; discard literal
    return pattern)

/-- Reads what may follow `IS`. -/
def test (inner : Reader References) (query : Reader References) : Reader References := do
  keyword "IS"
  skip (keyword "NOT")
  (do oneOf ["NULL", "TRUE", "FALSE", "UNKNOWN", "NORMALIZED"]; return {}) <|>
  (do keywords ["DISTINCT", "FROM"]; arithmetic inner query)

/-- Reads a subscript behind its opening bracket. -/
def subscript (inner : Reader References) : Reader References := do
  let low ← maybe inner
  let high ← maybe do symbol ":"; maybe inner
  symbol "]"
  return low.getD {} ++ (high.getD none).getD {}

/-- Reads one thing that follows an operand. -/
def continuation (inner : Reader References) (query : Reader References) : Reader References :=
  (do discard (satisfying isInfix); operand inner query) <|>
  (do symbol "::"; discard TypeName.read; return {}) <|>
  (do symbol "["; subscript inner) <|>
  (do oneOf ["AND", "OR", "XOR", "OVERLAPS"]; operand inner query) <|>
  test inner query <|>
  (do oneOf ["ISNULL", "NOTNULL"]; return {}) <|>
  comparison inner query <|>
  (do keywords ["AT", "TIME", "ZONE"]; operand inner query) <|>
  (do keyword "COLLATE"; discard qualifiedName; return {})

/-- Reads an expression. -/
def body (inner : Reader References) (query : Reader References) : Reader References := do
  let first ← operand inner query
  let more ← many (continuation inner query)
  return first ++ .concat more

end Expression

namespace Query

/-! ## Queries -/

/-- Words that end an item of a query, so that they name nothing unless `AS` stands before
them. -/
def closingWords : List String :=
  ["WITH", "SELECT", "WHERE", "GROUP", "HAVING", "ORDER", "LIMIT", "OFFSET", "FETCH", "UNION",
    "EXCEPT", "INTERSECT", "MINUS", "FROM", "INTO", "ON", "USING", "JOIN", "INNER", "CROSS", "FULL",
    "LEFT", "RIGHT", "NATURAL", "SET", "RETURNING", "WINDOW", "FOR", "VALUES", "LATERAL", "END",
    "QUALIFY", "CLUSTER", "DISTRIBUTE", "SORT", "OUTER", "ANTI", "SEMI", "TABLESAMPLE", "SAMPLE",
    "PIVOT", "UNPIVOT", "TOP", "VIEW", "EXPLAIN", "ANALYZE", "DEFAULT", "STRAIGHT_JOIN", "ASOF",
    "PARTITION", "START", "CONNECT", "MATCH_RECOGNIZE", "PREWHERE", "SETTINGS", "FORMAT"]

/-- Reads another name for an item. -/
def rename : Reader Unit :=
  (do keyword "AS"; discard name) <|>
  (do
    if ← follows fun t => t.isWord && !closingWords.any fun w => t.isKeyword w then discard name
    else failure)

/-- Reads one item that a query selects. -/
def item (expression : Reader References) : Reader References :=
  (do symbol "*"; return {}) <|>
  (do
    discard qualifiedName
    symbol "."
    symbol "*"
    return {}) <|>
  (do
    let e ← expression
    skip rename
    return e)

def source (expression : Reader References) (query : Reader References) : Reader References := do
  skip (keyword "LATERAL")
  let refs ← (do return (← parenthesized query).hidden) <|> (do
    if ← follows (fun t => closingWords.any fun w => t.isKeyword w) then failure
    skip (keyword "ONLY")
    let n ← qualifiedName
    match ← maybe (symbol "(") with
    | some () => discard (Expression.arguments expression query); return {}
    | none => return { tables := [n] })
  skip do rename; skip nameList
  return refs

/-- Reads tables that are joined to a first one. -/
def join (expression : Reader References) (query : Reader References) : Reader References := do
  skip (keyword "NATURAL")
  skip (keyword "INNER" <|> keyword "CROSS" <|> do
    oneOf ["LEFT", "RIGHT", "FULL"]
    skip (keyword "OUTER"))
  keyword "JOIN"
  let table ← source expression query
  let condition : Reader References :=
    (do keyword "ON"; expression) <|> (do keyword "USING"; discard nameList; return {})
  return table ++ (← maybe condition).getD {}

/-- Reads the tables that a query reads. -/
def sources (expression : Reader References) (query : Reader References) : Reader References :=
  listOf do
    let first ← source expression query
    return first ++ .concat (← many (join expression query))

/-- Reads a clause that begins with some words, if it stands here. -/
def clause (words : List String) (r : Reader References) : Reader References := do
  return (← maybe do keywords words; r).getD {}

def selection (expression : Reader References) (query : Reader References) : Reader References := do
  keyword "SELECT"
  skip (keyword "ALL" <|> do
    keyword "DISTINCT"
    skip do keyword "ON"; discard (parenthesized (listOf expression)))
  let items ← if ← follows (Token.isKeyword "FROM") then pure {} else listOf (item expression)
  let tables ← clause ["FROM"] (sources expression query)
  let filter ← clause ["WHERE"] expression
  let groups ← clause ["GROUP", "BY"] (listOf expression)
  let having ← clause ["HAVING"] expression
  return items ++ tables ++ filter ++ groups ++ having

/-- Reads a query without operators between queries. -/
def simple (expression : Reader References) (query : Reader References) : Reader References :=
  selection expression query <|>
  (do
    keyword "VALUES"
    listOf (parenthesized (listOf expression))) <|>
  (do keyword "TABLE"; return { tables := [← qualifiedName] }) <|>
  parenthesized query

/-- Reads the tables that a query names for itself. -/
def withTables (query : Reader References) : Reader Unit := do
  keyword "WITH"
  skip (keyword "RECURSIVE")
  discard <| separated do
    discard name
    skip nameList
    keyword "AS"
    skip do skip (keyword "NOT"); keyword "MATERIALIZED"
    discard (parenthesized query)

/-- Reads a query. Columns and tables behind `WITH` are not accounted for. -/
def body (expression : Reader References) (query : Reader References) : Reader References := do
  let named ← accepted (withTables query)
  let first ← simple expression query
  let more ← many do
    oneOf ["UNION", "EXCEPT", "INTERSECT"]
    skip (oneOf ["ALL", "DISTINCT"])
    simple expression query
  let order ← clause ["ORDER", "BY"] <| listOf do
    let e ← expression
    skip (oneOf ["ASC", "DESC"])
    skip do keyword "NULLS"; oneOf ["FIRST", "LAST"]
    return e
  let limit ← clause ["LIMIT"] expression
  let offset ← clause ["OFFSET"] do
    let e ← expression
    skip (oneOf ["ROW", "ROWS"])
    return e
  skip do
    keyword "FOR"
    oneOf ["UPDATE", "SHARE"]
  let all := first ++ .concat more ++ order ++ limit ++ offset
  return if named then {} else all

end Query

/-! ## Nesting -/

/-- How deep expressions and queries may stand in each other. -/
def nestingLimit : Nat := 49

mutual

/-- Reads an expression that stands in others of which `depth` more may do so. -/
def expressionAt (depth : Nat) : Reader References :=
  match depth with
  | 0 => failure
  | d + 1 => Expression.body (expressionAt d) (queryAt d)

/-- Reads a query that stands in others of which `depth` more may do so. -/
def queryAt (depth : Nat) : Reader References :=
  match depth with
  | 0 => failure
  | d + 1 => Query.body (expressionAt d) (queryAt d)

end

def expression : Reader References := expressionAt nestingLimit

def query : Reader References := queryAt nestingLimit

end MetricTables.Sql
