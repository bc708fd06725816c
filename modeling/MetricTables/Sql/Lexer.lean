import MetricTables.Identifier
import MetricTables.Sql.Token
import MetricTables.Text.Literal

/-!
# Reading tokens

Cuts a text into tokens and drops what stands between them. Comments run from `--` to the
end of the line or between `/*` and `*/`, which may be nested.

## Main definitions

* `Lexer.step` — the first token of a text, and what is left.
* `Lexer.tokens?` — all tokens of a text.
-/

namespace MetricTables.Sql.Lexer

/-! ## Classes of characters -/

/-- Blanks between tokens. Blanks outside ASCII belong to names. -/
def isBlank (c : Char) : Bool := c.isWhitespace || c == '\x0b' || c == '\x0c'

/-- Letters, the underscore and everything outside ASCII begin a word. -/
def isWordStart (c : Char) : Bool := c.isAlpha || c == '_' || c.toNat ≥ 128

/-- Digits and dollars go on with it. -/
def isWordPart (c : Char) : Bool := isWordStart c || c.isDigit || c == '$'

/-- Characters of which operators are made. -/
def isOperator (c : Char) : Bool := "+-*/<>=~!@#%^&|`?".toList.contains c

/-- Whether a comment begins with the two characters. -/
def opensComment (c d : Char) : Bool := (c == '-' && d == '-') || (c == '/' && d == '*')

/-! ## Texts and comments -/

/-- A text up to its closing quote; a quote inside is written twice. -/
def untilQuote : List Char → Option (List Char × List Char)
  | [] => none
  | '\'' :: '\'' :: r => (untilQuote r).map fun (s, t) => ('\'' :: s, t)
  | '\'' :: r => some ([], r)
  | c :: r => (untilQuote r).map fun (s, t) => (c :: s, t)

/-- The number that hexadecimal digits stand for. A plus may come before them. -/
def hexNumber? (cs : List Char) : Option Nat :=
  let digits := if cs.head? = some '+' then cs.tail else cs
  if digits.isEmpty then none
  else digits.foldlM (fun n c => (Text.hexDigit? c).map (n * 16 + ·)) 0

/-- How many characters behind a backslash and the next character belong to the escape; none if it
is the escape of no character. The null character cannot be escaped. -/
def escapeLength? (c : Char) (r : List Char) : Option Nat :=
  let unicode (n : Nat) : Option Nat := do
    let code ← hexNumber? (r.take n)
    if n ≤ r.length ∧ code.isValidChar ∧ code ≠ 0 then some n else none
  let octal (c : Char) : Bool := '0' ≤ c && c ≤ '7'
  if c = 'u' then unicode 4
  else if c = 'U' then unicode 8
  else if c = 'x' then
    let digits := (r.take 2).takeWhile fun c => (Text.hexDigit? c).isSome
    if digits.isEmpty ∨ (hexNumber? digits).any (fun n => 0 < n && n < 128) then some digits.length
    else none
  else if octal c then
    let digits := (r.take 2).takeWhile octal
    let code : Nat := (c :: digits).foldl (fun n c => n * 8 + (c.toNat - 48)) 0 % 256
    if 0 < code ∧ code < 128 then some digits.length else none
  else if c.toNat = 0 then none
  else some 0

/-- A text with escapes up to its closing quote. The first characters belong to an escape. -/
def skipEscaped : Nat → List Char → Option (List Char)
  | _, [] => none
  | n + 1, _ :: r => skipEscaped n r
  | 0, '\\' :: c :: r => (escapeLength? c r).bind fun n => skipEscaped n r
  | 0, '\'' :: '\'' :: r => skipEscaped 0 r
  | 0, '\'' :: r => some r
  | 0, _ :: r => skipEscaped 0 r

/-- What follows a comment that is open `depth + 1` times. -/
def skipComment (depth : Nat) : List Char → Option (List Char)
  | [] => none
  | '/' :: '*' :: r => skipComment (depth + 1) r
  | '*' :: '/' :: r =>
    match depth with
    | 0 => some r
    | d + 1 => skipComment d r
  | _ :: r => skipComment depth r

/-- What follows the rest of a line, its end included. -/
def skipLine : List Char → List Char
  | [] => []
  | c :: r => if c == '\n' || c == '\r' then r else skipLine r

/-- A text between two equal dollar tags, or a parameter. -/
def dollar (r : List Char) : Option (Token × List Char) :=
  let tag := r.takeWhile fun c => c.isAlphanum || c == '_'
  let rest := r.drop tag.length
  if rest.head? = some '$' then
    (Text.cut ('$' :: (tag ++ ['$'])) (rest.drop 1)).map fun (inner, after) =>
      (.literal (String.ofList inner), after)
  else some (.constant, rest)

/-! ## Numbers and operators -/

/-- The exponent of a number, if there is one. -/
def exponent : List Char → List Char
  | e :: r =>
    if e == 'e' || e == 'E' then
      match r with
      | s :: t =>
        if s.isDigit then e :: r.takeWhile Char.isDigit
        else if (s == '+' || s == '-') && (t.head?.any Char.isDigit) then
          e :: s :: t.takeWhile Char.isDigit
        else []
      | [] => []
    else []
  | [] => []

def digits : List Char → List Char
  | [] => []
  | c :: r =>
    if c.isDigit then c :: digits r
    else if c == '_' && r.head?.any Char.isDigit then c :: digits r
    else []

/-- A number: digits, a fraction, an exponent; or hexadecimal digits. -/
def number (cs : List Char) : Token × List Char :=
  if cs.take 2 = ['0', 'x'] then
    (.constant, (cs.drop 2).dropWhile fun c => c.isDigit || "abcdefABCDEF".toList.contains c)
  else
  let whole := digits cs
  let rest := cs.drop whole.length
  let fraction := if rest.head? = some '.' then '.' :: digits (rest.drop 1) else []
  let rest := rest.drop fraction.length
  let power := exponent rest
  (.number (String.ofList (whole ++ fraction ++ power)), rest.drop power.length)

/-- A run of operator characters, which a comment ends. -/
def operator : List Char → List Char
  | [] => []
  | c :: r =>
    if isOperator c && !(r.head?.any (opensComment c)) then c :: operator r else []

/-! ## Tokens -/

/-- A word, or a text with a letter before its opening quote. -/
def word (cs : List Char) : Option (Token × List Char) :=
  match cs with
  | c :: '\'' :: r =>
    if c == 'e' || c == 'E' then (skipEscaped 0 r).map fun t => (.constant, t)
    else if "bBnNxX".toList.contains c then (untilQuote r).map fun (_, t) => (.constant, t)
    else some (.word c.toString, '\'' :: r)
  | 'u' :: '&' :: '\'' :: r | 'U' :: '&' :: '\'' :: r =>
    (untilQuote r).map fun (_, t) => (.constant, t)
  | _ => some (.word (String.ofList (cs.takeWhile isWordPart)), cs.dropWhile isWordPart)

/-- The first token of a text, unless a blank or a comment stands there, and what is left. -/
def step (c : Char) (r : List Char) : Option (Option Token × List Char) :=
  if isBlank c then some (none, r)
  else if c = '"' then
    (Identifier.unescape r).map fun (name, t) => (some (.quoted (String.ofList name)), t)
  else if c = '\'' then
    (untilQuote r).map fun (s, t) => (some (.literal (String.ofList s)), t)
  else if isWordStart c then (word (c :: r)).map fun (t, rest) => (some t, rest)
  else if c.isDigit || (c == '.' && r.head?.any Char.isDigit) then
    let (t, rest) := number (c :: r)
    some (some t, rest)
  else if c = '$' then (dollar r).map fun (t, rest) => (some t, rest)
  else if c = '-' ∧ r.head? = some '-' then some (none, skipLine r)
  else if c = '/' ∧ r.head? = some '*' then (skipComment 0 (r.drop 1)).map fun t => (none, t)
  else if c = ':' ∧ r.head?.any (fun d => d == ':' || d == '=') then
    some (some (.symbol (String.ofList (c :: r.take 1))), r.drop 1)
  else if isOperator c then
    let run := c :: operator r
    some (some (.symbol (String.ofList run)), r.drop (run.length - 1))
  else some (some (.symbol c.toString), r)

/-- All tokens of a text; none if a quote or a comment is left open. -/
def tokens? : List Char → Option (List Token)
  | [] => some []
  | c :: r =>
    match step c r with
    | none => none
    | some (t, rest) =>
      if _shorter : rest.length ≤ r.length then (tokens? rest).map (t.toList ++ ·) else none
termination_by cs => cs.length
decreasing_by simp; omega

/-- Whatever a token was made of is gone. -/
theorem tokens?_cons {c : Char} {r rest : List Char} {t : Option Token}
    (h : step c r = some (t, rest)) (shorter : rest.length ≤ r.length) :
    tokens? (c :: r) = (tokens? rest).map (t.toList ++ ·) := by
  rw [tokens?, h]
  simp [shorter]

end MetricTables.Sql.Lexer
