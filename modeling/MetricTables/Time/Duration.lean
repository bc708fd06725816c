import MetricTables.Text.Blank

/-!
# Durations

A span of time in whole nanoseconds, with two texts: the short one that messages show and
the one of spans with named units that a configuration gives.

## Main definitions

* `Duration` — a span in nanoseconds.
* `Duration.short` — the text in a message, such as `1.5s` or `250ms`.
* `Duration.read?` — reads a sum of spans with units, such as `1h 30min`.
-/

namespace MetricTables

/-- A span of time. -/
structure Duration where
  nanos : Nat
  deriving DecidableEq, Repr, Inhabited

namespace Duration

def zero : Duration := ⟨0⟩

def ofMillis (n : Nat) : Duration := ⟨n * 1000000⟩

def ofSeconds (n : Nat) : Duration := ⟨n * 1000000000⟩

def millis (d : Duration) : Nat := d.nanos / 1000000

instance : Add Duration := ⟨fun a b => ⟨a.nanos + b.nanos⟩⟩

instance : LT Duration := ⟨fun a b => a.nanos < b.nanos⟩

instance : DecidableLT Duration := fun a b => inferInstanceAs (Decidable (a.nanos < b.nanos))

def times (d : Duration) (n : Nat) : Duration := ⟨d.nanos * n⟩

@[simp] theorem nanos_add (a b : Duration) : (a + b).nanos = a.nanos + b.nanos := rfl

@[simp] theorem nanos_times (d : Duration) (n : Nat) : (d.times n).nanos = d.nanos * n := rfl

theorem add_assoc (a b c : Duration) : a + b + c = a + (b + c) :=
  congrArg mk (Nat.add_assoc a.nanos b.nanos c.nanos)

theorem add_right_comm (a b c : Duration) : a + b + c = a + c + b :=
  congrArg mk (Nat.add_right_comm a.nanos b.nanos c.nanos)

/-- `n` units of which `whole` make up one shown unit: a decimal number with no zero at
its end. -/
def inUnits (n whole places : Nat) : String :=
  let digits := Nat.toDigits 10 (n % whole)
  let padded := List.replicate (places - digits.length) '0' ++ digits
  let kept := (padded.reverse.dropWhile (· == '0')).reverse
  toString (n / whole) ++ (if n % whole = 0 then "" else "." ++ String.ofList kept)

/-- The text of a span in the largest of the units s, ms, µs and ns that it reaches. -/
def short (d : Duration) : String :=
  let n := d.nanos
  if n ≥ 1000000000 then inUnits n 1000000000 9 ++ "s"
  else if n ≥ 1000000 then inUnits n 1000000 6 ++ "ms"
  else if n ≥ 1000 then inUnits n 1000 3 ++ "µs"
  else toString n ++ "ns"

/-! ## Spans with named units -/

/-- A named unit of time. -/
structure Unit where
  nanos : Nat
  /-- A whole number of units is counted in this many nanoseconds. -/
  grain : Nat
  /-- A fraction of a unit is cut to this many nanoseconds. -/
  fractionGrain : Nat

def unit? (name : String) : Option Unit :=
  let second := 1000000000
  match name with
  | "nanos" | "nsec" | "ns" => some ⟨1, 1, 1⟩
  | "usec" | "us" | "µs" => some ⟨1000, 1, 1⟩
  | "millis" | "msec" | "ms" => some ⟨1000000, 1, 1⟩
  | "seconds" | "second" | "secs" | "sec" | "s" => some ⟨second, second, 1⟩
  | "minutes" | "minute" | "mins" | "min" | "m" => some ⟨60 * second, second, 1⟩
  | "hours" | "hour" | "hrs" | "hr" | "h" => some ⟨3600 * second, second, second⟩
  | "days" | "day" | "d" => some ⟨86400 * second, second, second⟩
  | "weeks" | "week" | "wks" | "wk" | "w" => some ⟨604800 * second, second, second⟩
  | "months" | "month" | "M" => some ⟨2630016 * second, second, second⟩
  | "years" | "year" | "yrs" | "yr" | "y" => some ⟨31557600 * second, second, second⟩
  | _ => none

/-- The largest unsigned word; no part of a span may exceed it. -/
def wordMax : Nat := UInt64.size - 1

/-- Letters that a unit is written with. -/
def isUnitChar (c : Char) : Bool := c.isAlpha || c == 'µ'

/-- A number as digits among which blanks may stand; nothing if it is no unsigned word. -/
def readDigits (n : Nat) : List Char → Option (Nat × List Char)
  | [] => some (n, [])
  | c :: cs =>
    if c.isDigit then
      let m := n * 10 + (c.toNat - 48)
      if m ≤ wordMax then readDigits m cs else none
    else if Text.isBlank c then readDigits n cs
    else some (n, c :: cs)

/-- A fraction behind its point, as numerator and denominator. -/
def readFraction (num den : Nat) : List Char → Option (Nat × Nat × List Char)
  | [] => some (num, den, [])
  | c :: cs =>
    if c.isDigit then
      let num := num * 10 + (c.toNat - 48)
      let den := den * 10
      if num ≤ wordMax ∧ den ≤ wordMax then readFraction num den cs else none
    else if Text.isBlank c then readFraction num den cs
    else some (num, den, c :: cs)

/-- One span: its number, fraction and unit, in nanoseconds. -/
def spanOf? (n num den : Nat) (name : String) : Option Nat := do
  let u ← unit? name
  if n * (u.nanos / u.grain) ≤ wordMax ∧ num * (u.nanos / u.fractionGrain) ≤ wordMax then
    return n * u.nanos + num * (u.nanos / u.fractionGrain) / den * u.fractionGrain
  else none

/-- Spans up to the end of the text. The text starts with the digits of a number. -/
def readSpans : Nat → List Char → Option Nat
  | 0, _ => none
  | fuel + 1, cs => do
    let (n, cs) ← readDigits 0 cs
    let (num, den, cs) ← match cs with
      | '.' :: cs => do
        let (num, den, cs) ← readFraction 0 1 cs
        if den = 1 then none else some (num, den, cs)
      | cs => some (0, 1, cs)
    let name := cs.takeWhile isUnitChar
    let rest := cs.dropWhile isUnitChar
    let span ← spanOf? n num den (String.ofList name)
    match rest with
    | [] => return span
    | c :: more =>
      if c.isDigit then return span + (← readSpans fuel rest)
      else if Text.isBlank c then
        match Text.trimLeft more with
        | [] => return span
        | d :: more =>
          if d.isDigit then return span + (← readSpans fuel (d :: more)) else none
      else none

/-- Reads a sum of spans with named units. A bare zero needs no unit; the seconds of the
sum have to fit into an unsigned word. -/
def read? (s : String) : Option Duration :=
  if s == "0" then some zero
  else match Text.trimLeft s.toList with
    | [] => none
    | c :: cs =>
      if c.isDigit then do
        let n ← readSpans (cs.length + 1) (c :: cs)
        if n / 1000000000 ≤ wordMax then return ⟨n⟩ else none
      else none

end Duration

end MetricTables
