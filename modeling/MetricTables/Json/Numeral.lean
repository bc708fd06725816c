/-!
# JSON numerals

A JSON number as written, and the number it stands for. A whole numeral that fits is a
word, signed or unsigned; any other is a double. The double is formed from the digits
that fit into an unsigned word and one multiplication or division by a power of ten, so
it can differ from the nearest double in the last place.

## Main definitions

* `Numeral` — sign, digits and exponent as written.
* `Number` — a signed word, an unsigned word or a double.
* `Numeral.value?` — the number, or nothing if it is too large for a double.
-/

namespace MetricTables.Json

/-- A number as written. Digits are numbers below ten. -/
structure Numeral where
  negative : Bool
  whole : List Nat
  /-- The digits after the point, if there is a point. -/
  fraction : Option (List Nat)
  /-- The sign (`true` below zero) and digits of the exponent, if there is one. -/
  exponent : Option (Bool × List Nat)
  deriving Repr, Inhabited

/-- What a numeral stands for. -/
inductive Number where
  | int (n : Int64)
  | uint (n : UInt64)
  | float (x : Float)
  deriving Inhabited

def maxSignificand : Nat := UInt64.size - 1

/-- The largest written exponent that is worked with. -/
def maxExponent : Nat := 0x7FFFFFFF

/-- The size of the least signed word, which is one more than that of the greatest. -/
def signedLimit : Nat := 0x8000000000000000

/-- Appends digits to a significand while it fits into an unsigned word; the second part
counts the digits that were appended. -/
def appendDigits (significand : Nat) : List Nat → Nat × Nat
  | [] => (significand, 0)
  | d :: ds =>
    if significand * 10 + d ≤ maxSignificand then
      let (s, taken) := appendDigits (significand * 10 + d) ds
      (s, taken + 1)
    else (significand, 0)

def powerOfTen (n : Nat) : Float := Float.ofScientific 1 false n

/-- Division by a power of ten, in steps that a double can hold. -/
def divideByTens (x : Float) (n : Nat) : Float :=
  if n ≤ 308 then x / powerOfTen n
  else if x == 0.0 then x
  else divideByTens (x / powerOfTen 308) (n - 308)
termination_by n

/-- `significand · 10 ^ exponent` as a double, or nothing if it is too large. -/
def scaled? (significand : Nat) (exponent : Int) : Option Float :=
  let x := (UInt64.ofNat significand).toFloat
  if exponent < 0 then some (divideByTens x exponent.natAbs)
  else if exponent ≤ 308 then
    let y := x * powerOfTen exponent.toNat
    if y.isInf then none else some y
  else if x == 0.0 then some x else none

/-- The number that decimal digits spell. -/
def digitsValue (ds : List Nat) : Nat := ds.foldl (fun n d => n * 10 + d) 0

def Numeral.size? (n : Numeral) : Option Float :=
  let (s, taken) := appendDigits 0 n.whole
  let skipped := Int.ofNat (n.whole.length - taken)
  let (s, places) := appendDigits s (n.fraction.getD [])
  let start := skipped - Int.ofNat places
  match n.exponent with
  | none => scaled? s start
  | some (below, ds) =>
    let e := digitsValue ds
    if e > maxExponent then if s ≠ 0 ∧ !below then none else some 0.0
    else scaled? s (if below then start - Int.ofNat e else start + Int.ofNat e)

/-- The number that a numeral stands for, or nothing if it is too large for a double. -/
def Numeral.value? (n : Numeral) : Option Number :=
  let whole := digitsValue n.whole
  if n.fraction.isNone && n.exponent.isNone && whole ≤ maxSignificand then
    if n.negative then
      if whole = 0 ∨ whole > signedLimit then some (.float (-(UInt64.ofNat whole).toFloat))
      else some (.int (Int64.ofInt (-Int.ofNat whole)))
    else if whole < signedLimit then some (.int (Int64.ofNat whole))
    else some (.uint (UInt64.ofNat whole))
  else n.size?.map fun x => .float (if n.negative then -x else x)

end MetricTables.Json
