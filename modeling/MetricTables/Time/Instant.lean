import MetricTables.Text.Blank

/-!
# Instants

A point in time as seconds since 1970 and a fraction in nanoseconds, its written form
with a date, a time of day and an offset from universal time, and the reader of that
form. A leap second is the second before it with a fraction of a second or more.

## Main definitions

* `Date` — a day of the Gregorian calendar, counted forward and backward without end.
* `Instant` — a point in time.
* `Instant.text` — its written form in universal time.
* `Instant.read?` — reads a written form; blanks between its parts are allowed.
-/

namespace MetricTables

/-- A day of the Gregorian calendar. -/
structure Date where
  year : Int
  month : Nat
  day : Nat
  deriving DecidableEq, Repr, Inhabited

namespace Date

def isLeapYear (y : Int) : Bool := y % 4 == 0 && (y % 100 != 0 || y % 400 == 0)

def daysInMonth (y : Int) (m : Nat) : Nat :=
  if m = 2 then (if isLeapYear y then 29 else 28)
  else if m = 4 ∨ m = 6 ∨ m = 9 ∨ m = 11 then 30 else 31

/-- Whether the calendar has the day. -/
def isValid (d : Date) : Bool :=
  decide (1 ≤ d.month ∧ d.month ≤ 12 ∧ 1 ≤ d.day ∧ d.day ≤ daysInMonth d.year d.month)

/-- Days since the first of January 1970. Years start in March, so that the leap day is
the last of its year. -/
def dayNumber (d : Date) : Int :=
  let y := if d.month ≤ 2 then d.year - 1 else d.year
  let era := y / 400
  let yearOfEra := y % 400
  let month := if d.month > 2 then d.month - 3 else d.month + 9
  let dayOfYear := (153 * month + 2) / 5 + d.day - 1
  era * 146097 + (yearOfEra * 365 + yearOfEra / 4 - yearOfEra / 100 + Int.ofNat dayOfYear) - 719468

def ofDayNumber (n : Int) : Date :=
  let z := n + 719468
  let era := z / 146097
  let dayOfEra := z % 146097
  let yearOfEra := (dayOfEra - dayOfEra / 1460 + dayOfEra / 36524 - dayOfEra / 146096) / 365
  let dayOfYear := dayOfEra - (365 * yearOfEra + yearOfEra / 4 - yearOfEra / 100)
  let mp := (5 * dayOfYear + 2) / 153
  let day := dayOfYear - (153 * mp + 2) / 5 + 1
  let month := if mp < 10 then mp + 3 else mp - 9
  let year := yearOfEra + era * 400 + (if month ≤ 2 then 1 else 0)
  ⟨year, month.toNat, day.toNat⟩

/-- The first and last day that an instant may fall on. -/
def first : Date := ⟨-262143, 1, 1⟩

def last : Date := ⟨262142, 12, 31⟩

end Date

/-- A point in time. In a leap second `nanos` is a whole second too large. -/
structure Instant where
  /-- Seconds since 1970, leap seconds not counted. -/
  seconds : Int
  nanos : Nat
  deriving DecidableEq, Repr, Inhabited

namespace Instant

/-- A number with zeros before it up to a width. -/
def padded (width n : Nat) : String :=
  let digits := Nat.toDigits 10 n
  String.ofList (List.replicate (width - digits.length) '0' ++ digits)

/-- Four digits; years outside of them have a sign. -/
def yearText (y : Int) : String :=
  if 0 ≤ y ∧ y ≤ 9999 then padded 4 y.toNat
  else (if y < 0 then "-" else "+") ++ padded 4 y.natAbs

/-- The fraction in three, six or nine digits, as few as it needs. -/
def fractionText (nanos : Nat) : String :=
  if nanos = 0 then ""
  else if nanos % 1000000 = 0 then "." ++ padded 3 (nanos / 1000000)
  else if nanos % 1000 = 0 then "." ++ padded 6 (nanos / 1000)
  else "." ++ padded 9 nanos

/-- The written form in universal time. -/
def text (t : Instant) : String :=
  let date := Date.ofDayNumber (t.seconds / 86400)
  let time := (t.seconds % 86400).toNat
  let leap := t.nanos / 1000000000
  yearText date.year ++ "-" ++ padded 2 date.month ++ "-" ++ padded 2 date.day ++ "T" ++
    padded 2 (time / 3600) ++ ":" ++ padded 2 (time / 60 % 60) ++ ":" ++
    padded 2 (time % 60 + leap) ++ fractionText (t.nanos % 1000000000) ++ "Z"

/-! ## Reading -/

/-- Up to `width` leading digits, at least one, as a number; blanks before them are
skipped. -/
def number? (width : Nat) (cs : List Char) : Option (Nat × List Char) :=
  let cs := Text.trimLeft cs
  let ds := (cs.take width).takeWhile Char.isDigit
  if ds.isEmpty then none
  else some (ds.foldl (fun n d => n * 10 + (d.toNat - 48)) 0, cs.drop ds.length)

/-- One character, blanks before it skipped. -/
def mark? (c : Char) (cs : List Char) : Option (List Char) :=
  match Text.trimLeft cs with
  | [] => none
  | d :: rest => if c = d then some rest else none

/-- A year: four digits at most, or any number of them behind a sign. -/
def year? (cs : List Char) : Option (Int × List Char) :=
  let unblanked (cs : List Char) : Option (Nat × List Char) :=
    match cs with
    | c :: _ => if c.isDigit then number? cs.length cs else none
    | [] => none
  match Text.trimLeft cs with
  | '-' :: cs => (unblanked cs).map fun (n, rest) => (-Int.ofNat n, rest)
  | '+' :: cs => (unblanked cs).map fun (n, rest) => (Int.ofNat n, rest)
  | cs => (number? 4 cs).map fun (n, rest) => (Int.ofNat n, rest)

/-- A fraction of a second, if a point comes next; digits behind the ninth are dropped. -/
def nanos? : List Char → Option (Nat × List Char)
  | '.' :: cs =>
    let ds := (cs.take 9).takeWhile Char.isDigit
    if ds.isEmpty then none
    else
      let n := ds.foldl (fun n d => n * 10 + (d.toNat - 48)) 0
      some (n * Nat.pow 10 (9 - ds.length), (cs.drop ds.length).dropWhile Char.isDigit)
  | cs => some (0, cs)

/-- An offset from universal time in seconds: `Z`, `UTC`, or a sign with hours and minutes. -/
def offset? (cs : List Char) : Option (Int × List Char) :=
  match Text.trimLeft cs with
  | [] => none
  | c :: cs =>
    if c.toLower = 'u' ∧ (cs.take 2).map Char.toLower = ['t', 'c'] then some (0, cs.drop 2)
    else if c = 'Z' ∨ c = 'z' then some (0, cs)
    else if c = '+' ∨ c = '-' ∨ c = '−' then
      match cs with
      | a :: b :: rest =>
        match rest.dropWhile fun d => d = ':' || Text.isBlank d with
        | m :: n :: rest =>
          if a.isDigit ∧ b.isDigit ∧ '0' ≤ m ∧ m ≤ '5' ∧ n.isDigit then
            let digit (d : Char) : Int := Int.ofNat (d.toNat - 48)
            let size := (digit a * 10 + digit b) * 3600 + (digit m * 10 + digit n) * 60
            some (if c = '+' then size else -size, rest)
          else none
        | _ => none
      | _ => none
    else none

/-- A date and a time of day with what is left of the text behind the seconds. -/
def local? (cs : List Char) : Option (Date × Nat × Nat × Nat × List Char) := do
  let (year, cs) ← year? cs
  let cs ← mark? '-' cs
  let (month, cs) ← number? 2 cs
  let cs ← mark? '-' cs
  let (day, cs) ← number? 2 cs
  match cs with
  | [] => none
  | c :: cs =>
    if c = 'T' ∨ c = 't' ∨ c = ' ' then
      let (hour, cs) ← number? 2 cs
      let cs ← mark? ':' cs
      let (minute, cs) ← number? 2 cs
      let cs ← mark? ':' cs
      let (second, cs) ← number? 2 cs
      return (⟨year, month, day⟩, hour, minute, second, cs)
    else none

/-- Reads a written form. The second 60 is a leap second at any time of day. -/
def read? (s : String) : Option Instant := do
  let (date, hour, minute, second, cs) ← local? s.toList
  let (nanos, cs) ← nanos? cs
  let (offset, cs) ← offset? cs
  let leap := if second = 60 then 1 else 0
  let days := date.dayNumber
  let seconds := days * 86400 + Int.ofNat (hour * 3600 + minute * 60 + second - leap) - offset
  if (Text.trimLeft cs).isEmpty ∧ date.isValid ∧ hour < 24 ∧ minute < 60 ∧ second ≤ 60 ∧
      offset.natAbs < 86400 ∧ Date.first.dayNumber ≤ days ∧ days ≤ Date.last.dayNumber ∧
      Date.first.dayNumber ≤ seconds / 86400 ∧ seconds / 86400 ≤ Date.last.dayNumber then
    return ⟨seconds, nanos + leap * 1000000000⟩
  else none

end Instant

end MetricTables
