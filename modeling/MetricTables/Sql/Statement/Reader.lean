import MetricTables.Sql.Lexer
import MetricTables.Sql.Statement.Table

/-!
# Reading statements

Readers for all statements, and for a text of several. Statements other than those on
tables and queries have to be well formed; what they say is not kept.

## Main definitions

* `Grammar.readAll` — the statements of some tokens.
* `statements?` — the statements of a text.
-/

namespace MetricTables.Sql

namespace Grammar

open Reader

/-! ## Other statements -/

def returning : Reader Unit := skip do
  keyword "RETURNING"
  discard (separated (Query.item expression))

/-- Reads columns and the values that they get. -/
def assignments : Reader Unit := do
  discard <| separated do
    discard qualifiedName
    symbol "="
    discard expression

/-- Reads the condition on the rows that a statement is about. -/
def condition : Reader Unit := skip do keyword "WHERE"; discard expression

def insertion : Reader Unit := do
  keywords ["INSERT", "INTO"] <|> keyword "INSERT"
  skip (keyword "TABLE")
  discard qualifiedName
  skip do keyword "AS"; discard name
  skip nameList
  keywords ["DEFAULT", "VALUES"] <|> discard query
  skip do
    keywords ["ON", "CONFLICT"]
    skip nameList
    keyword "DO"
    keyword "NOTHING" <|> do keywords ["UPDATE", "SET"]; assignments; condition
  returning

def update : Reader Unit := do
  keyword "UPDATE"
  discard (Query.source expression query)
  keyword "SET"
  assignments
  skip do keyword "FROM"; discard (Query.sources expression query)
  condition
  returning

def deletion : Reader Unit := do
  keywords ["DELETE", "FROM"]
  discard (Query.sources expression query)
  skip do keyword "USING"; discard (Query.sources expression query)
  condition
  returning

/-- Reads the removal of tables that says nothing on what else is removed. -/
def dropTable : Reader Statement := do
  keywords ["DROP", "TABLE"]
  let ifExists ← accepted (keywords ["IF", "EXISTS"])
  let names ← separated qualifiedName
  if ← follows fun t => ["CASCADE", "RESTRICT", "PURGE"].any fun k => t.isKeyword k then failure
  return .dropTable ifExists names <|
    "DROP TABLE " ++ (if ifExists then "IF EXISTS " else "") ++
      Text.join ", " (names.map QualifiedName.shown)

/-- Reads the removal of things. -/
def drop : Reader Unit := do
  keyword "DROP"
  skip (oneOf ["TEMPORARY", "MATERIALIZED"])
  oneOf ["TABLE", "VIEW", "INDEX", "ROLE", "SCHEMA", "DATABASE", "SEQUENCE", "TYPE", "EXTENSION",
    "USER"]
  skip (keywords ["IF", "EXISTS"])
  discard (separated qualifiedName)
  dropBehaviour
  skip (keyword "PURGE")

def truncation : Reader Unit := do
  keyword "TRUNCATE"
  skip (keyword "TABLE")
  skip (keyword "ONLY")
  discard (separated qualifiedName)
  skip do oneOf ["RESTART", "CONTINUE"]; keyword "IDENTITY"
  dropBehaviour

/-- Reads the creation of an index behind its first word. -/
def indexCreation : Reader Unit := do
  skip (keyword "UNIQUE")
  keyword "INDEX"
  skip (keyword "CONCURRENTLY")
  skip (keywords ["IF", "NOT", "EXISTS"])
  if !(← follows (Token.isKeyword "ON")) then discard qualifiedName
  keyword "ON"
  discard qualifiedName
  skip method
  discard <| parenthesized <| separated do
    discard expression
    skip (oneOf ["ASC", "DESC"])
    skip do keyword "NULLS"; oneOf ["FIRST", "LAST"]
  skip do keyword "INCLUDE"; discard nameList
  skip do keyword "WITH"; settings
  condition

/-- Reads the creation of a view behind its first words. -/
def viewCreation : Reader Unit := do
  skip (keyword "MATERIALIZED")
  keyword "VIEW"
  skip (keywords ["IF", "NOT", "EXISTS"])
  discard qualifiedName
  skip nameList
  skip do keyword "WITH"; settings
  keyword "AS"
  discard query
  skip do keyword "WITH"; skip (keyword "NO"); keyword "DATA"

/-- Reads the creation of something that only has a name. -/
def plainCreation : Reader Unit := do
  oneOf ["SCHEMA", "DATABASE", "EXTENSION", "SEQUENCE"]
  skip (keywords ["IF", "NOT", "EXISTS"])
  discard qualifiedName
  skip do keyword "AUTHORIZATION"; discard name

/-- Reads a comment on something. -/
def comment : Reader Unit := do
  keywords ["COMMENT", "ON"]
  skip (keyword "MATERIALIZED")
  oneOf ["TABLE", "COLUMN", "VIEW", "SCHEMA", "DATABASE", "EXTENSION", "ROLE", "USER", "INDEX",
    "SEQUENCE", "TYPE", "DOMAIN", "FUNCTION", "PROCEDURE"]
  discard qualifiedName
  keyword "IS"
  discard literal <|> keyword "NULL"

def transaction : Reader Unit :=
  (do
    keyword "BEGIN" <|> keywords ["START", "TRANSACTION"]
    skip (oneOf ["TRANSACTION", "WORK"])
    skip (keywords ["READ", "ONLY"] <|> keywords ["READ", "WRITE"] <|>
      keywords ["ISOLATION", "LEVEL", "SERIALIZABLE"] <|>
      keywords ["ISOLATION", "LEVEL", "READ", "COMMITTED"] <|>
      keywords ["ISOLATION", "LEVEL", "REPEATABLE", "READ"])) <|>
  (do
    oneOf ["COMMIT", "END", "ROLLBACK"]
    skip (oneOf ["TRANSACTION", "WORK"])
    skip do keyword "TO"; skip (keyword "SAVEPOINT"); discard name) <|>
  (do keyword "SAVEPOINT"; discard name) <|>
  (do keyword "RELEASE"; skip (keyword "SAVEPOINT"); discard name)

def setting : Reader Unit := do
  keyword "SET"
  skip (oneOf ["SESSION", "LOCAL", "GLOBAL"])
  discard qualifiedName
  symbol "=" <|> keyword "TO"
  discard (separated expression)

/-- Reads a question about the store or the session. -/
def question : Reader Unit :=
  (do keyword "SHOW"; discard (many (satisfying Token.isWord))) <|>
  (do keyword "ANALYZE"; skip (keyword "TABLE"); discard qualifiedName) <|>
  (do
    oneOf ["LISTEN", "UNLISTEN", "NOTIFY"]
    discard name
    skip do symbol ","; discard literal) <|>
  (do keyword "CALL"; discard expression)

/-- Reads who may do what. -/
def permission : Reader Unit := do
  oneOf ["GRANT", "REVOKE"]
  discard <| separated do
    oneOf ["ALL", "SELECT", "INSERT", "UPDATE", "DELETE", "TRUNCATE", "REFERENCES", "TRIGGER",
      "USAGE", "CREATE", "CONNECT", "EXECUTE", "TEMPORARY"]
    skip (keyword "PRIVILEGES")
  keyword "ON"
  skip (oneOf ["TABLE", "SCHEMA", "SEQUENCE", "DATABASE"])
  discard (separated qualifiedName)
  oneOf ["TO", "FROM"]
  discard (separated name)
  dropBehaviour

/-! ## One statement, and all of a text -/

/-- Reads a creation behind its first word. -/
def creation : Reader Statement := do
  skip (keywords ["OR", "REPLACE"])
  skip (oneOf ["GLOBAL", "LOCAL"])
  skip (keyword "TRANSIENT")
  skip (oneOf ["TEMP", "TEMPORARY"])
  (do keyword "TABLE"; createTable) <|>
    (do
      indexCreation <|> viewCreation <|> plainCreation
      return .other "CREATE")

/-- Reads a statement that is shown by its leading word. -/
def remaining : Reader Statement :=
  (do insertion; return .other "INSERT") <|>
  (do update; return .other "UPDATE") <|>
  (do deletion; return .other "DELETE") <|>
  dropTable <|>
  (do drop; return .other "DROP") <|>
  (do truncation; return .other "TRUNCATE") <|>
  (do comment; return .other "COMMENT") <|>
  (do transaction; return .other "TRANSACTION") <|>
  (do setting; return .other "SET") <|>
  (do question; return .other "SHOW") <|>
  (do permission; return .other "GRANT") <|>
  (do
    keyword "ALTER"
    oneOf ["INDEX", "VIEW", "SCHEMA"]
    discard qualifiedName
    keywords ["RENAME", "TO"]
    discard qualifiedName
    return .other "ALTER")

/-- Reads a statement that is no explanation of another one. -/
def plain : Reader Statement :=
  (do keyword "CREATE"; creation) <|>
  (do keywords ["ALTER", "TABLE"]; alterTable) <|>
  (do return .query (← query) "SELECT") <|>
  remaining

def read : Reader Statement :=
  plain <|>
  (do
    keyword "EXPLAIN"
    skip (keyword "ANALYZE")
    skip (keyword "VERBOSE")
    discard plain
    return .other "EXPLAIN")

def semicolons : Reader Unit := do discard (many (symbol ";"))

/-- Reads all statements. Statements are separated by semicolons; where one ends at `END`,
the rest is left out. -/
def readAll : Reader (List Statement) := do
  semicolons
  let ended ← many do
    let s ← read
    symbol ";"
    semicolons
    return s
  let last ← maybe read
  if last.isSome && (← follows (Token.isKeyword "END")) then return ended ++ last.toList
  else
    atEnd
    return ended ++ last.toList

end Grammar

/-- The statements of a text; none if it breaks the grammar. -/
def statements? (sql : String) : Option (List Statement) := do
  let tokens ← Lexer.tokens? sql.toList
  let (statements, _) ← Grammar.readAll tokens
  return statements

end MetricTables.Sql
