import MetricTables.Sql.Token

/-!
# Readers of tokens

A reader takes what it reads from the front of the tokens, or fails and takes nothing.
Repetition is bounded by the number of tokens, which no caller sees.

## Main definitions

* `Reader` — takes a value from the front of the tokens.
* `Reader.many`, `Reader.separated` — repetition, and repetition with commas.
* `Reader.name`, `Reader.qualifiedName` — names.
-/

namespace MetricTables.Sql

/-- Takes a value from the front of the tokens. -/
abbrev Reader := StateT (List Token) Option

namespace Reader

variable {α : Type}

/-- The next token, if the test accepts it. -/
def satisfying (p : Token → Bool) : Reader Token := fun ts =>
  match ts with
  | [] => none
  | t :: r => if p t then some (t, r) else none

/-- Whether the next token passes a test; takes nothing. -/
def follows (p : Token → Bool) : Reader Bool := fun ts => some (ts.head?.any p, ts)

/-- Succeeds where no token is left. -/
def atEnd : Reader Unit := fun ts => if ts.isEmpty then some ((), ts) else none

def keyword (k : String) : Reader Unit := do discard <| satisfying (Token.isKeyword k)

def keywords (ks : List String) : Reader Unit := ks.forM keyword

/-- One of some words of the grammar. -/
def oneOf (ks : List String) : Reader Unit := do
  discard <| satisfying fun t => ks.any fun k => t.isKeyword k

def symbol (s : String) : Reader Unit := do discard <| satisfying fun t => t == .symbol s

/-- A value where there is one. -/
def maybe (r : Reader α) : Reader (Option α) := fun ts =>
  match r ts with
  | some (a, rest) => some (some a, rest)
  | none => some (none, ts)

/-- Whether the reader succeeds here. -/
def accepted (r : Reader α) : Reader Bool := do return (← maybe r).isSome

/-- Goes on if there is something of the kind, and otherwise as well. -/
def skip (r : Reader α) : Reader Unit := do discard <| maybe r

def atMost (r : Reader α) : Nat → List Token → List α × List Token
  | 0, ts => ([], ts)
  | n + 1, ts =>
    match r ts with
    | none => ([], ts)
    | some (a, rest) =>
      let (as, left) := atMost r n rest
      (a :: as, left)

def many (r : Reader α) : Reader (List α) := fun ts => some (atMost r ts.length ts)

/-- Values with commas between them, at least one. -/
def separated (r : Reader α) : Reader (List α) := do
  let first ← r
  let more ← many do
    symbol ","
    r
  return first :: more

def parenthesized (r : Reader α) : Reader α := do
  symbol "("
  let a ← r
  symbol ")"
  return a

/-- A value with the tokens that it was read from. -/
def withTokens (r : Reader α) : Reader (α × List Token) := fun ts =>
  (r ts).map fun (a, rest) => ((a, ts.take (ts.length - rest.length)), rest)

/-! ## Names and constants -/

def name? : Token → Option Name
  | .word w => some (.bare w)
  | .quoted s => some (.quoted s)
  | .literal s => some ⟨s, some '\''⟩
  | _ => none

/-- A name. A text between single quotes passes for one. -/
def name : Reader Name := fun ts =>
  match ts with
  | [] => none
  | t :: r => (name? t).map fun n => (n, r)

def qualifiedName : Reader QualifiedName := do
  let first ← name
  let more ← many do
    symbol "."
    name
  return first :: more

def nameList : Reader (List Name) := parenthesized (separated name)

/-- The digits of a number that fits eight bytes. -/
def whole : Reader String := fun ts =>
  match ts with
  | .number d :: r =>
    match d.toNat? with
    | some n => if n < UInt64.size then some (toString n, r) else none
    | none => none
  | _ => none

def literal : Reader String := fun ts =>
  match ts with
  | .literal s :: r => some (s, r)
  | _ => none

def isConstant : Token → Bool
  | .literal _ | .constant | .number _ => true
  | _ => false

end Reader

end MetricTables.Sql
