import MetricTables.Toml.Value
import MetricTables.Time.Instant

/-!
# TOML documents

Reads a TOML document into its root table. Scanners take the remaining characters and
return what they read with the rest; a document is read line by line, each line being a
header, a key with its value, or blank.

## Main definitions

* `Toml.value?` — one value.
* `Toml.read?` — the root table of a whole document.
-/

namespace MetricTables.Toml

/-! ## Blanks, comments and line ends -/

def isSpace (c : Char) : Bool := c == ' ' || c == '\t'

def skipSpaces (cs : List Char) : List Char := cs.dropWhile isSpace

/-- A character that may stand in a comment or a literal string. -/
def isPlain (c : Char) : Bool := c == '\t' || (0x20 ≤ c.toNat && c.toNat != 0x7F)

/-- The rest behind a line end, if the text starts with one. -/
def newline? : List Char → Option (List Char)
  | '\n' :: rest => some rest
  | '\r' :: '\n' :: rest => some rest
  | _ => none

/-- The rest behind a comment, if the text starts with one. -/
def skipComment : List Char → List Char
  | '#' :: rest => rest.dropWhile isPlain
  | cs => cs

/-- The rest behind blanks, a comment and a line end, or nothing if something else stands
there. The end of the document ends a line too. -/
def lineEnd? (cs : List Char) : Option (List Char) :=
  let rest := skipComment (skipSpaces cs)
  if rest.isEmpty then some [] else newline? rest

/-- The text without leading blanks, comments and line ends. -/
def skipLines : Nat → List Char → List Char
  | 0, cs => cs
  | fuel + 1, cs =>
    match skipComment (skipSpaces cs) with
    | '\n' :: rest => skipLines fuel rest
    | '\r' :: '\n' :: rest => skipLines fuel rest
    | rest => rest

/-- The text without leading blanks, comments and line ends. -/
def skipGap (cs : List Char) : List Char := skipLines cs.length cs

/-! ## Strings -/

/-- The number of hexadecimal digits, exactly `n` of them. -/
def hexNumber? : Nat → Nat → List Char → Option (Nat × List Char)
  | 0, acc, cs => some (acc, cs)
  | _ + 1, _, [] => none
  | n + 1, acc, c :: cs =>
    if c.isDigit then hexNumber? n (acc * 16 + (c.toNat - 48)) cs
    else if 'a' ≤ c ∧ c ≤ 'f' then hexNumber? n (acc * 16 + (c.toNat - 87)) cs
    else if 'A' ≤ c ∧ c ≤ 'F' then hexNumber? n (acc * 16 + (c.toNat - 55)) cs
    else none

/-- The character with a code point, if it is one. -/
def charOf? (n : Nat) : Option Char :=
  if n < 0xD800 ∨ (0xE000 ≤ n ∧ n < 0x110000) then some (Char.ofNat n) else none

/-- An escape behind its backslash. -/
def escape? : List Char → Option (Char × List Char)
  | 'b' :: cs => some (Char.ofNat 8, cs)
  | 't' :: cs => some ('\t', cs)
  | 'n' :: cs => some ('\n', cs)
  | 'f' :: cs => some (Char.ofNat 12, cs)
  | 'r' :: cs => some ('\r', cs)
  | '"' :: cs => some ('"', cs)
  | '\\' :: cs => some ('\\', cs)
  | 'u' :: cs => do
    let (n, cs) ← hexNumber? 4 0 cs
    return (← charOf? n, cs)
  | 'U' :: cs => do
    let (n, cs) ← hexNumber? 8 0 cs
    return (← charOf? n, cs)
  | _ => none

/-- The characters of a basic string behind its opening quote. -/
def basic? : Nat → List Char → Option (List Char × List Char)
  | 0, _ => none
  | fuel + 1, cs =>
    match cs with
    | [] => none
    | '"' :: rest => some ([], rest)
    | '\\' :: rest => do
      let (c, rest) ← escape? rest
      let (more, rest) ← basic? fuel rest
      return (c :: more, rest)
    | c :: rest =>
      if isPlain c then (basic? fuel rest).map fun (more, rest) => (c :: more, rest) else none

/-- The characters of a literal string behind its opening quote. -/
def literal? : List Char → Option (List Char × List Char)
  | [] => none
  | c :: rest =>
    if c = '\'' then some ([], rest)
    else if isPlain c then (literal? rest).map fun (more, rest) => (c :: more, rest)
    else none

/-- The rest behind the blanks and line ends that a backslash at the end of a line skips,
or nothing if the line goes on behind the backslash. -/
def continuation? (cs : List Char) : Option (List Char) := do
  let rest ← newline? (skipSpaces cs)
  return rest.dropWhile fun c => isSpace c || c == '\n' || c == '\r'

/-- The characters of a string of several lines behind its opening quotes. Up to two
quotes may stand before the closing ones. -/
def multiline? (quote : Char) (escapes : Bool) : Nat → List Char → Option (List Char × List Char)
  | 0, _ => none
  | fuel + 1, cs =>
    if cs.take 3 = [quote, quote, quote] then
      let extra := ((cs.drop 3).take 2).takeWhile (· == quote)
      some (extra, cs.drop (3 + extra.length))
    else match cs with
      | [] => none
      | '\r' :: '\n' :: rest =>
        (multiline? quote escapes fuel rest).map fun (more, rest) => ('\n' :: more, rest)
      | '\\' :: rest =>
        if escapes then
          match continuation? rest with
          | some rest => multiline? quote escapes fuel rest
          | none => do
            let (c, rest) ← escape? rest
            let (more, rest) ← multiline? quote escapes fuel rest
            return (c :: more, rest)
        else (multiline? quote escapes fuel rest).map fun (more, rest) => ('\\' :: more, rest)
      | c :: rest =>
        if isPlain c || c == '\n' then
          (multiline? quote escapes fuel rest).map fun (more, rest) => (c :: more, rest)
        else none

/-- A string of several lines; a line end right behind the opening quotes is skipped. -/
def block? (quote : Char) (escapes : Bool) (cs : List Char) : Option (List Char × List Char) :=
  multiline? quote escapes (cs.length + 1) ((newline? cs).getD cs)

def string? : List Char → Option (String × List Char)
  | '"' :: '"' :: '"' :: rest => (block? '"' true rest).map fun (s, rest) => (String.ofList s, rest)
  | '"' :: rest => (basic? (rest.length + 1) rest).map fun (s, rest) => (String.ofList s, rest)
  | '\'' :: '\'' :: '\'' :: rest =>
    (block? '\'' false rest).map fun (s, rest) => (String.ofList s, rest)
  | '\'' :: rest => (literal? rest).map fun (s, rest) => (String.ofList s, rest)
  | _ => none

/-! ## Keys -/

def isBare (c : Char) : Bool := c.isAlphanum || c == '-' || c == '_'

def keyPart? (cs : List Char) : Option (String × List Char) :=
  match cs with
  | '"' :: rest => (basic? (rest.length + 1) rest).map fun (s, rest) => (String.ofList s, rest)
  | '\'' :: rest => (literal? rest).map fun (s, rest) => (String.ofList s, rest)
  | _ =>
    let name := cs.takeWhile isBare
    if name.isEmpty then none else some (String.ofList name, cs.dropWhile isBare)

/-- A key: parts with points between them; blanks may stand around each part. -/
def key? : Nat → List Char → Option (List String × List Char)
  | 0, _ => none
  | fuel + 1, cs => do
    let (part, rest) ← keyPart? (skipSpaces cs)
    match skipSpaces rest with
    | '.' :: rest =>
      let (parts, rest) ← key? fuel rest
      return (part :: parts, rest)
    | rest => return ([part], rest)

/-! ## Numbers, dates and times -/

/-- Digits of a base with single underscores between them, as a list. -/
def groupedDigits (isDigit : Char → Bool) : List Char → List Char × List Char
  | [] => ([], [])
  | c :: cs =>
    if isDigit c then
      let (ds, rest) := groupedDigits isDigit cs
      (c :: ds, rest)
    else match c, cs with
      | '_', d :: ds =>
        if isDigit d then
          let (more, rest) := groupedDigits isDigit ds
          (d :: more, rest)
        else ([], c :: cs)
      | _, _ => ([], c :: cs)

/-- Digits of a base, the first of which is no underscore. -/
def digits? (isDigit : Char → Bool) (cs : List Char) : Option (List Char × List Char) :=
  match cs with
  | c :: _ => if isDigit c then some (groupedDigits isDigit cs) else none
  | [] => none

/-- The value of a digit of any base up to sixteen. -/
def digitValue (c : Char) : Nat :=
  if c.isDigit then c.toNat - 48 else if 'a' ≤ c then c.toNat - 87 else c.toNat - 55

def numberOf (base : Nat) (ds : List Char) : Nat := ds.foldl (fun n d => n * base + digitValue d) 0

def isHex (c : Char) : Bool := c.isDigit || ('a' ≤ c && c ≤ 'f') || ('A' ≤ c && c ≤ 'F')

def isOctal (c : Char) : Bool := '0' ≤ c && c ≤ '7'

def isBinary (c : Char) : Bool := c == '0' || c == '1'

/-- An integer, if it fits into a signed word. -/
def fitting? (n : Int) : Option Toml :=
  if Int64.minValue.toInt ≤ n ∧ n ≤ Int64.maxValue.toInt then some (.integer n) else none

def sign : List Char → Bool × List Char
  | '-' :: cs => (true, cs)
  | '+' :: cs => (false, cs)
  | cs => (false, cs)

def decimal? (cs : List Char) : Option (List Char × List Char) :=
  match cs with
  | '0' :: rest => some (['0'], rest)
  | _ => digits? Char.isDigit cs

/-- An integer: decimal with a sign, or in base sixteen, eight or two without one. -/
def integer? (cs : List Char) : Option (Toml × List Char) :=
  let based (base : Nat) (isDigit : Char → Bool) (cs : List Char) : Option (Toml × List Char) := do
    let (ds, rest) ← digits? isDigit cs
    return (← fitting? (numberOf base ds), rest)
  match cs with
  | '0' :: 'x' :: rest => based 16 isHex rest
  | '0' :: 'o' :: rest => based 8 isOctal rest
  | '0' :: 'b' :: rest => based 2 isBinary rest
  | _ => do
    let (negative, cs) := sign cs
    let (ds, rest) ← decimal? cs
    let n := Int.ofNat (numberOf 10 ds)
    return (← fitting? (if negative then -n else n), rest)

def exponent? (cs : List Char) : Option (Int × List Char) := do
  let (negative, cs) := sign cs
  let (ds, rest) ← digits? Char.isDigit cs
  let n := Int.ofNat (numberOf 10 ds)
  return (if negative then -n else n, rest)

/-- The double `m · 10 ^ e`; exponents beyond all doubles are cut. -/
def floatOf (m : Nat) (e : Int) : Float :=
  let size := Int.ofNat (Nat.toDigits 10 m).length + e
  if m = 0 ∨ size < -330 then 0.0
  else if size > 310 then 1.0 / 0.0
  else if e < 0 then Float.ofScientific m true e.natAbs else Float.ofScientific m false e.natAbs

/-- A float: digits with a fraction or an exponent, or one of the special values. -/
def float? (cs : List Char) : Option (Toml × List Char) :=
  let (negative, cs) := sign cs
  let signed (x : Float) : Float := if negative then -x else x
  match cs with
  | 'i' :: 'n' :: 'f' :: rest => some (.float (signed (1.0 / 0.0)), rest)
  | 'n' :: 'a' :: 'n' :: rest => some (.float (0.0 / 0.0), rest)
  | _ => do
    let (whole, rest) ← decimal? cs
    let (places, rest) ← match rest with
      | '.' :: more => digits? Char.isDigit more
      | 'e' :: _ => some ([], rest)
      | 'E' :: _ => some ([], rest)
      | _ => none
    let (e, rest) ← match rest with
      | 'e' :: more => exponent? more
      | 'E' :: more => exponent? more
      | _ => some (0, rest)
    let x := signed (floatOf (numberOf 10 (whole ++ places)) (e - Int.ofNat places.length))
    if x == 1.0 / 0.0 then none else return (.float x, rest)

def fixed? (n : Nat) (cs : List Char) : Option (Nat × List Char) :=
  let ds := cs.take n
  if ds.length = n ∧ ds.all Char.isDigit then some (numberOf 10 ds, cs.drop n) else none

def date? (cs : List Char) : Option (List Char) := do
  let (year, cs) ← fixed? 4 cs
  match cs with
  | '-' :: cs =>
    let (month, cs) ← fixed? 2 cs
    match cs with
    | '-' :: cs =>
      let (day, cs) ← fixed? 2 cs
      if Date.isValid ⟨Int.ofNat year, month, day⟩ then return cs else none
    | _ => none
  | _ => none

/-- A time of day, with a fraction of a second or without. -/
def time? (cs : List Char) : Option (List Char) := do
  let (hour, cs) ← fixed? 2 cs
  match cs with
  | ':' :: cs =>
    let (minute, cs) ← fixed? 2 cs
    match cs with
    | ':' :: cs =>
      let (second, cs) ← fixed? 2 cs
      if hour < 24 ∧ minute < 60 ∧ second ≤ 60 then
        match cs with
        | '.' :: more =>
          if (more.head?).any Char.isDigit then return more.dropWhile Char.isDigit else none
        | _ => return cs
      else none
    | _ => none
  | _ => none

/-- The rest behind an offset from universal time, if there is one. -/
def skipOffset (cs : List Char) : Option (List Char) :=
  match cs with
  | c :: rest =>
    if c = 'Z' ∨ c = 'z' then some rest
    else if c = '+' ∨ c = '-' then do
      let (hour, rest) ← fixed? 2 rest
      match rest with
      | ':' :: rest =>
        let (minute, rest) ← fixed? 2 rest
        if hour < 24 ∧ minute < 60 then return rest else none
      | _ => none
    else some cs
  | [] => some []

/-- A date, a time of day, or both with an offset or without. Nothing if the text does not
start like one; an inner nothing if it does and is none. -/
def dateTime? (cs : List Char) : Option (Option (Toml × List Char)) :=
  let whole (rest : List Char) : Toml × List Char :=
    (.dateTime (String.ofList (cs.take (cs.length - rest.length))), rest)
  if (fixed? 4 cs).isSome ∧ (cs.drop 4).head? = some '-' then
    some do
      let rest ← date? cs
      match rest with
      | c :: more =>
        if c = 'T' ∨ c = 't' then return whole (← skipOffset (← time? more))
        else if c = ' ' ∧ (fixed? 2 more).isSome ∧ (more.drop 2).head? = some ':' then
          return whole (← skipOffset (← time? more))
        else return whole rest
      | [] => return whole rest
  else if (fixed? 2 cs).isSome ∧ (cs.drop 2).head? = some ':' then
    some ((time? cs).map whole)
  else none

/-- A value that starts like a number. -/
def numeric? (cs : List Char) : Option (Toml × List Char) :=
  match dateTime? cs with
  | some result => result
  | none =>
    match float? cs with
    | some result => some result
    | none => integer? cs

/-! ## Values -/

mutual

def value? : Nat → List Char → Option (Toml × List Char)
  | 0, _ => none
  | fuel + 1, cs =>
    match cs with
    | [] => none
    | '[' :: rest => (items? fuel (skipGap rest)).map fun (vs, rest) => (.array vs, rest)
    | '\x7b' :: rest =>
      match skipSpaces rest with
      | '\x7d' :: rest => some (.table [], rest)
      | rest =>
        (pairs? fuel [] rest).map fun (entries, rest) => (.table (Node.finishEntries entries), rest)
    | 't' :: 'r' :: 'u' :: 'e' :: rest => some (.boolean true, rest)
    | 'f' :: 'a' :: 'l' :: 's' :: 'e' :: rest => some (.boolean false, rest)
    | c :: _ =>
      if c = '"' ∨ c = '\'' then (string? cs).map fun (s, rest) => (.string s, rest)
      else numeric? cs

/-- The items of an array up to its closing bracket. -/
def items? : Nat → List Char → Option (List Toml × List Char)
  | 0, _ => none
  | fuel + 1, cs =>
    match cs with
    | ']' :: rest => some ([], rest)
    | _ => do
      let (v, rest) ← value? fuel cs
      match skipGap rest with
      | ',' :: rest =>
        let (vs, rest) ← items? fuel (skipGap rest)
        return (v :: vs, rest)
      | ']' :: rest => return ([v], rest)
      | _ => none

/-- The entries of a table on one line up to its closing brace. -/
def pairs? : Nat → List (String × Node) → List Char → Option (List (String × Node) × List Char)
  | 0, _, _ => none
  | fuel + 1, entries, cs => do
    let (path, rest) ← key? (cs.length + 1) cs
    match rest with
    | '=' :: rest =>
      let (v, rest) ← value? fuel (skipSpaces rest)
      let entries ← Node.assign? v path entries
      match skipSpaces rest with
      | ',' :: rest => pairs? fuel entries rest
      | '\x7d' :: rest => return (entries, rest)
      | _ => none
    | _ => none

end

/-! ## Documents -/

/-- One line: the document after it, the path of the last header, and the rest. -/
def line? (root : List (String × Node)) (header : List String) (cs : List Char) :
    Option (List (String × Node) × List String × List Char) :=
  match skipSpaces cs with
  | '[' :: '[' :: rest => do
    let (path, rest) ← key? (rest.length + 1) rest
    match rest with
    | ']' :: ']' :: rest =>
      let root ← Node.atHeader? (Node.openNext? (path.getLastD "")) path.dropLast root
      return (root, path, ← lineEnd? rest)
    | _ => none
  | '[' :: rest => do
    let (path, rest) ← key? (rest.length + 1) rest
    match rest with
    | ']' :: rest =>
      let root ← Node.atHeader? (Node.openTable? (path.getLastD "")) path.dropLast root
      return (root, path, ← lineEnd? rest)
    | _ => none
  | rest =>
    match lineEnd? rest with
    | some rest => some (root, header, rest)
    | none => do
      let (path, rest) ← key? (rest.length + 1) rest
      match rest with
      | '=' :: rest =>
        let (v, rest) ← value? (rest.length + 1) (skipSpaces rest)
        let root ← Node.atHeader? (Node.assign? v path) header root
        return (root, header, ← lineEnd? rest)
      | _ => none

/-- The lines of a document up to its end. -/
def lines? : Nat → List (String × Node) → List String → List Char → Option (List (String × Node))
  | 0, _, _, _ => none
  | fuel + 1, root, header, cs =>
    match cs with
    | [] => some root
    | _ => do
      let (root, header, rest) ← line? root header cs
      lines? fuel root header rest

/-- The root table of a whole document; a byte order mark may stand before it. -/
def read? (s : String) : Option (List (String × Toml)) :=
  let cs := match s.toList with
    | '\ufeff' :: cs => cs
    | cs => cs
  (lines? (cs.length + 1) [] [] cs).map Node.finishEntries

end MetricTables.Toml
