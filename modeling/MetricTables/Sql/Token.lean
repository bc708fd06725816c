import MetricTables.Text.LowerCase

/-!
# Tokens of SQL

The pieces of a statement, and the names in it. A bare name means its lower-case form; a
quoted one means itself.

## Main definitions

* `Token` — a piece of a statement.
* `Name`, `QualifiedName` — a name, and names with points between them.
-/

namespace MetricTables.Sql

/-- A piece of a statement. -/
inductive Token where
  /-- A bare word: a word of the grammar or a name. -/
  | word (text : String)
  /-- A name between double quotes. -/
  | quoted (name : String)
  /-- A text between single quotes or dollar tags. -/
  | literal (value : String)
  /-- A constant of another notation, such as a bit string. -/
  | constant
  | number (digits : String)
  /-- Punctuation, or a run of operator characters. -/
  | symbol (text : String)
  deriving DecidableEq, Repr, Inhabited

namespace Token

/-- Whether the token is a word of the grammar, which is given in capitals. -/
def isKeyword (k : String) : Token → Bool
  | .word w => w.toList.map Char.toUpper == k.toList
  | _ => false

def isWord : Token → Bool
  | .word _ | .quoted _ => true
  | _ => false

end Token

/-- A name as a statement writes it. -/
structure Name where
  text : String
  /-- The quote on both sides, if there is one. -/
  quote : Option Char
  deriving DecidableEq, Repr, Inhabited

namespace Name

def bare (text : String) : Name := ⟨text, none⟩

def quoted (text : String) : Name := ⟨text, some '"'⟩

/-- The name that is meant: case counts between quotes only. -/
def meaning (n : Name) : String := if n.quote.isSome then n.text else Text.lower n.text

@[simp] theorem meaning_quoted (s : String) : (quoted s).meaning = s := rfl

/-- Shows a quoted text without knowing how its quotes were escaped: a quote beside
another one or behind a backslash counts as escaped and stays, any other is doubled.
`escaped` says that a backslash stands before. -/
def showQuotes (q : Char) (escaped : Bool) : List Char → List Char
  | [] => []
  | [c] => if c = q ∧ !escaped then [q, q] else [c]
  | c :: d :: r =>
    if c = q then
      if escaped then c :: showQuotes q true (d :: r)
      else if d = q then q :: q :: showQuotes q false r
      else q :: q :: showQuotes q false (d :: r)
    else c :: showQuotes q (c == '\\') (d :: r)

/-- The name with its quotes, as messages show it. -/
def shown (n : Name) : String :=
  match n.quote with
  | none => n.text
  | some q => String.ofList (q :: (showQuotes q false n.text.toList ++ [q]))

end Name

/-- Names with points between them. -/
abbrev QualifiedName := List Name

/-- The names with points between them, as messages show them. -/
def QualifiedName.shown (n : QualifiedName) : String := Text.join "." (n.map Name.shown)

end MetricTables.Sql
