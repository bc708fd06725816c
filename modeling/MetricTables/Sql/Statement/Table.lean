import MetricTables.Sql.Statement

/-!
# The grammar of tables

Readers for the creation and the change of a table. Of constraints, defaults and storage
settings only the grammar is checked, since a store of structures has no use for them.

## Main definitions

* `Grammar.columnDefinition` — a column with its properties.
* `Grammar.createTable`, `Grammar.alterTable` — a new table, and changes of one.
-/

namespace MetricTables.Sql.Grammar

open Reader

/-! ## Constraints -/

/-- Reads when a constraint is checked. -/
def characteristics : Reader Unit := do
  discard <| many <|
    keyword "DEFERRABLE" <|> keywords ["NOT", "DEFERRABLE"] <|>
    keywords ["INITIALLY", "DEFERRED"] <|> keywords ["INITIALLY", "IMMEDIATE"] <|>
    keyword "ENFORCED" <|> keywords ["NOT", "ENFORCED"]

/-- Reads what a referenced row does when it goes away or changes. -/
def referenceAction : Reader Unit := do
  keyword "ON"
  oneOf ["DELETE", "UPDATE"]
  oneOf ["RESTRICT", "CASCADE"] <|> keywords ["SET", "NULL"] <|> keywords ["NO", "ACTION"] <|>
    keywords ["SET", "DEFAULT"]

def reference : Reader Unit := do
  keyword "REFERENCES"
  discard qualifiedName
  skip nameList
  discard (many referenceAction)
  characteristics

def check : Reader Unit := do
  keyword "CHECK"
  discard (parenthesized expression)

/-- Reads key columns, each with an order. -/
def keyColumns : Reader Unit := do
  discard <| parenthesized <| separated do
    discard name
    skip (oneOf ["ASC", "DESC"])
    skip do keyword "NULLS"; oneOf ["FIRST", "LAST"]

def method : Reader Unit := do
  keyword "USING"
  discard name

/-- Reads the columns of a key, which may have a name and a method before them. -/
def key : Reader Unit := do
  let named ← follows fun t => t.isWord && !t.isKeyword "USING"
  if named then discard name
  skip method
  keyColumns
  skip method
  characteristics

def tableConstraint : Reader Unit := do
  skip do keyword "CONSTRAINT"; discard name
  (do
    keyword "UNIQUE"
    skip do keyword "NULLS"; skip (keyword "NOT"); keyword "DISTINCT"
    key) <|>
  (do keywords ["PRIMARY", "KEY"]; key) <|>
  (do
    keywords ["FOREIGN", "KEY"]
    if ← follows Token.isWord then discard name
    discard nameList
    reference) <|>
  (do check; skip (keyword "ENFORCED" <|> keywords ["NOT", "ENFORCED"]))

def beginsConstraint (t : Token) : Bool :=
  ["CONSTRAINT", "UNIQUE", "PRIMARY", "FOREIGN", "CHECK"].any fun k => t.isKeyword k

/-! ## Columns -/

/-- Reads how a sequence counts. -/
def sequenceOptions : Reader Unit := do
  discard <| many <|
    (do keywords ["INCREMENT", "BY"] <|> keyword "INCREMENT" <|> keywords ["START", "WITH"] <|>
          keyword "START" <|> oneOf ["MINVALUE", "MAXVALUE", "CACHE"]
        skip (symbol "-")
        discard whole) <|>
    (do skip (keyword "NO"); oneOf ["MINVALUE", "MAXVALUE", "CYCLE"])

/-- Reads how values of a column come about. -/
def generated : Reader Unit := do
  keyword "GENERATED"
  (do
    keywords ["ALWAYS", "AS", "IDENTITY"] <|> keywords ["BY", "DEFAULT", "AS", "IDENTITY"]
    skip (parenthesized sequenceOptions)) <|>
  (do
    keywords ["ALWAYS", "AS"]
    discard (parenthesized expression)
    keyword "STORED")

def columnProperty : Reader Unit :=
  (do keywords ["CHARACTER", "SET"]; discard qualifiedName) <|>
  (do keyword "COLLATE"; discard qualifiedName) <|>
  keywords ["NOT", "NULL"] <|>
  (do keyword "COMMENT"; discard literal) <|>
  keyword "NULL" <|>
  (do keyword "DEFAULT"; discard expression) <|>
  (do keywords ["PRIMARY", "KEY"]; characteristics) <|>
  (do keyword "UNIQUE"; characteristics) <|>
  reference <|>
  check <|>
  generated

/-- Words that may end a column definition and say nothing. -/
def closingMarks : List (List String) :=
  [["AUTO_INCREMENT"], ["AUTOINCREMENT"], ["ASC"], ["DESC"], ["ON", "UPDATE"], ["AS"], ["SRID"],
    ["IDENTITY"]]

def columnDefinition : Reader ColumnDefinition := do
  let n ← name
  let (type, tokens) ← withTokens TypeName.read
  discard <| many do
    skip do keyword "CONSTRAINT"; discard name
    columnProperty
  closingMarks.forM fun ws => skip (keywords ws)
  return ⟨n, type, TypeName.wordsOf tokens⟩

/-- Reads an element of a table: a column, or a constraint, which gives none. -/
def element : Reader (Option ColumnDefinition) := do
  if ← follows beginsConstraint then
    tableConstraint
    return none
  else if ← follows Token.isWord then return some (← columnDefinition)
  else failure

/-- Reads the columns of a table, if any are given. -/
def elements : Reader (List ColumnDefinition) := do
  match ← maybe (symbol "(") with
  | none => return []
  | some () =>
    (do symbol ")"; return []) <|>
    (do
      let es ← separated element
      symbol ")"
      return es.filterMap id)

/-! ## Tables -/

def settings : Reader Unit := do
  discard <| parenthesized <| separated do
    discard qualifiedName
    skip do symbol "="; discard expression

/-- Reads how the fields of a row stand in a file. -/
def rowFormat : Reader Unit := do
  keywords ["ROW", "FORMAT"]
  (do keyword "SERDE"; discard literal) <|>
  (do
    skip (keyword "DELIMITED")
    discard <| many <|
      (do
        keywords ["FIELDS", "TERMINATED", "BY"]
        discard name
        skip do keywords ["ESCAPED", "BY"]; discard name) <|>
      (do
        keywords ["COLLECTION", "ITEMS", "TERMINATED", "BY"] <|>
          keywords ["MAP", "KEYS", "TERMINATED", "BY"] <|>
          keywords ["LINES", "TERMINATED", "BY"] <|>
          keywords ["NULL", "DEFINED", "AS"]
        discard name))

/-- Reads the format of the files of a table. -/
def fileFormat : Reader Unit := do
  keywords ["STORED", "AS"]
  (do
    keyword "INPUTFORMAT"
    discard expression
    keyword "OUTPUTFORMAT"
    discard expression) <|>
  oneOf ["AVRO", "JSONFILE", "ORC", "PARQUET", "RCFILE", "SEQUENCEFILE", "TEXTFILE"]

/-- Reads where and how the rows of a table are kept in files. -/
def fileProperties : Reader Unit := do
  skip do
    keywords ["PARTITIONED", "BY"]
    discard (parenthesized (separated columnDefinition))
  discard <| many <|
    rowFormat <|> fileFormat <|>
    (do keyword "LOCATION"; discard literal) <|>
    (do keywords ["WITH", "SERDEPROPERTIES"]; settings)

/-- Reads what may stand behind the columns of a new table. -/
def tableProperties : Reader Unit := do
  skip (keywords ["WITHOUT", "ROWID"])
  fileProperties
  skip do keyword "INHERITS"; discard (parenthesized (separated qualifiedName))
  skip do keyword "WITH"; settings
  skip do keyword "TBLPROPERTIES"; settings
  skip do keywords ["PARTITION", "BY"]; discard expression
  skip do keyword "COMMENT"; skip (symbol "="); discard literal
  skip do keywords ["ORDER", "BY"]; discard expression
  skip do
    keywords ["ON", "COMMIT"]
    keywords ["DELETE", "ROWS"] <|> keywords ["PRESERVE", "ROWS"] <|> keyword "DROP"
  skip (keyword "STRICT")
  skip do keyword "AS"; discard query

/-- Reads the creation of a table behind its leading words. -/
def createTable : Reader Statement := do
  let ifNotExists ← accepted (keywords ["IF", "NOT", "EXISTS"])
  let n ← qualifiedName
  skip do keywords ["ON", "CLUSTER"]; discard name
  skip do oneOf ["LIKE", "ILIKE"]; discard qualifiedName
  skip do keyword "CLONE"; discard qualifiedName
  let columns ← elements
  tableProperties
  return .createTable n ifNotExists columns

/-- Reads a change that adds something. -/
def addition : Reader TableChange := do
  keyword "ADD"
  if ← follows beginsConstraint then
    tableConstraint
    skip (keywords ["NOT", "VALID"])
    return .other "ADD"
  else
    let early ← accepted (keywords ["IF", "NOT", "EXISTS"])
    skip (keyword "COLUMN")
    let late ← accepted (keywords ["IF", "NOT", "EXISTS"])
    return .addColumn (late || early) (← columnDefinition)

/-- Reads what happens to things that need a dropped one. -/
def dropBehaviour : Reader Unit := skip (oneOf ["CASCADE", "RESTRICT"])

def columnChange : Reader Unit := do
  skip (keyword "COLUMN")
  discard name
  keywords ["SET", "NOT", "NULL"] <|> keywords ["DROP", "NOT", "NULL"] <|>
  keywords ["DROP", "DEFAULT"] <|>
  (do keywords ["SET", "DEFAULT"]; discard expression) <|>
  (do
    keywords ["SET", "DATA", "TYPE"] <|> keyword "TYPE"
    discard TypeName.read
    skip do keyword "USING"; discard expression) <|>
  (do keyword "ADD"; generated)

/-- Reads a change that adds no column. -/
def otherChange : Reader TableChange :=
  (do
    keyword "DROP"
    (do
      keyword "CONSTRAINT"
      skip (keywords ["IF", "EXISTS"])
      discard name
      dropBehaviour) <|>
    keywords ["PRIMARY", "KEY"] <|>
    (do
      skip (keyword "COLUMN")
      skip (keywords ["IF", "EXISTS"])
      discard name
      dropBehaviour)
    return .other "DROP") <|>
  (do
    keyword "RENAME"
    (do keyword "CONSTRAINT"; discard name; keyword "TO"; discard name) <|>
    (do keyword "TO"; discard qualifiedName) <|>
    (do skip (keyword "COLUMN"); discard name; keyword "TO"; discard name)
    return .other "RENAME") <|>
  (do keyword "ALTER"; columnChange; return .other "ALTER") <|>
  (do keywords ["OWNER", "TO"]; discard name; return .other "OWNER") <|>
  (do
    oneOf ["ENABLE", "DISABLE"]
    keywords ["ROW", "LEVEL", "SECURITY"] <|> do
      skip (oneOf ["ALWAYS", "REPLICA"])
      oneOf ["RULE", "TRIGGER"]
      discard name
    return .other "ENABLE") <|>
  (do keywords ["VALIDATE", "CONSTRAINT"]; discard name; return .other "VALIDATE") <|>
  (do keyword "SET"; settings; return .other "SET")

/-- Reads a change of a table behind its leading words. -/
def alterTable : Reader Statement := do
  skip (keywords ["IF", "EXISTS"])
  skip (keyword "ONLY")
  let n ← qualifiedName
  let changes ← separated (addition <|> otherChange)
  return .alterTable n changes

end MetricTables.Sql.Grammar
