/-!
# Shortest decimal digits

The decimal number with the fewest digits that rounds to a given binary number, in exact
arithmetic. A double is `m · 2 ^ q`; the reals that round to it form an interval whose
ends belong to it exactly if `m` is even. On the grid of `n` digits only the two
neighbours of the value can lie in the interval, so the first grid with a hit has the
fewest digits, and of two hits the nearer one is taken; a style says which one if both
are equally near.

## Main definitions

* `Binary` — a positive binary number with the width of its interval.
* `Tie` — which of two neighbours is taken that are equally near.
* `Binary.shortest` — its shortest decimal.
* `FloatStyle.write` — a double with its shortest digits.
-/

namespace MetricTables.Decimal

/-- Which of two neighbours on a decimal grid is taken if both are equally near. -/
inductive Tie where
  | up
  | toEven
  deriving DecidableEq, Repr

/-- The positive number `mantissa · 2 ^ exponent`. -/
structure Binary where
  mantissa : Nat
  exponent : Int
  /-- The next smaller double is only half as far away as the next larger one. -/
  narrowBelow : Bool

/-- `2 ^ q`; one if `q` is negative. -/
def twos (q : Int) : Nat := Nat.pow 2 q.toNat

/-- `10 ^ e`; one if `e` is negative. -/
def tens (e : Int) : Nat := Nat.pow 10 e.toNat

namespace Binary

/-- Compares `x · 2 ^ p` with `d · 10 ^ e`. -/
def compareScaled (x : Nat) (p : Int) (d : Nat) (e : Int) : Ordering :=
  compare (x * twos p * tens (-e)) (d * tens e * twos (-p))

/-- Whether `d · 10 ^ e` rounds to the number. -/
def roundsTo (b : Binary) (d : Nat) (e : Int) : Bool :=
  let p := b.exponent - 2
  let low := 4 * b.mantissa - (if b.narrowBelow then 1 else 2)
  let high := 4 * b.mantissa + 2
  let even := b.mantissa % 2 == 0
  let above := compareScaled low p d e
  let below := compareScaled high p d e
  (above == .lt || (even && above == .eq)) && (below == .gt || (even && below == .eq))

/-- The whole multiples of `10 ^ e` in the number. -/
def multiples (b : Binary) (e : Int) : Nat :=
  (b.mantissa * twos b.exponent * tens (-e)) / (tens e * twos (-b.exponent))

/-- Whether the upper neighbour is taken. Twice the number is compared with the sum of `d`
and `d + 1` multiples of `10 ^ e`. -/
def takesUpper (tie : Tie) (b : Binary) (d : Nat) (e : Int) : Bool :=
  match compareScaled (2 * b.mantissa) b.exponent (2 * d + 1) e with
  | .gt => true
  | .lt => false
  | .eq => tie == .up || d % 2 == 1

/-- The power of ten just above the number. -/
def magnitude (b : Binary) : Int :=
  (((List.range 650).map fun i => Int.ofNat i - 330).find? fun k =>
    compareScaled b.mantissa b.exponent 1 k == .lt).getD 320

/-- The hit on the grid of `10 ^ e`, if there is one. -/
def hit? (tie : Tie) (b : Binary) (e : Int) : Option Nat :=
  let d := b.multiples e
  match b.roundsTo d e && d != 0, b.roundsTo (d + 1) e with
  | true, true => some (if takesUpper tie b d e then d + 1 else d)
  | true, false => some d
  | false, true => some (d + 1)
  | false, false => none

/-- The shortest decimal `d · 10 ^ e` that rounds to the number. -/
def shortest (tie : Tie) (b : Binary) : Nat × Int :=
  let k := b.magnitude
  (((List.range 17).map fun n => k - 1 - Int.ofNat n).findSome? fun e =>
    (hit? tie b e).map (·, e)).getD (b.multiples (k - 17), k - 17)

end Binary

/-- How many doubles there are from a power of two up to the next one. -/
def doublesPerPower : Nat := 0x10000000000000

/-- The magnitude of a finite double other than zero. -/
def Binary.ofFloat (x : Float) : Binary :=
  let bits := x.toBits.toNat
  let field := bits / doublesPerPower % 0x800
  let fraction := bits % doublesPerPower
  if field = 0 then ⟨fraction, -1074, false⟩
  else ⟨doublesPerPower + fraction, Int.ofNat field - 1075, fraction == 0 && field != 1⟩

def signBit (x : Float) : Bool := x.toBits ≥ 0x8000000000000000

/-- Decimal digits without zeros at the end, and the exponent that goes with them. -/
def dropZeros : Nat → Nat → Int → Nat × Int
  | 0, d, e => (d, e)
  | fuel + 1, d, e => if d % 10 = 0 ∧ d ≠ 0 then dropZeros fuel (d / 10) (e + 1) else (d, e)

/-- `d · 10 ^ e` with a point among or before its digits, at least one digit after it. -/
def positional (d : Nat) (e : Int) : String :=
  let digits := Nat.toDigits 10 d
  let scale := Int.ofNat digits.length + e
  if e ≥ 0 then String.ofList (digits ++ List.replicate e.toNat '0') ++ ".0"
  else if scale > 0 then
    String.ofList (digits.take scale.toNat ++ ['.'] ++ digits.drop scale.toNat)
  else "0." ++ String.ofList (List.replicate (-scale).toNat '0' ++ digits)

/-- `d · 10 ^ e` with one digit before the point and an exponent. -/
def scientific (d : Nat) (e : Int) : String :=
  let digits := Nat.toDigits 10 d
  let power := Int.ofNat digits.length - 1 + e
  let tail := if digits.length ≤ 1 then [] else '.' :: digits.drop 1
  String.ofList (digits.take 1 ++ tail ++ ['e']) ++ toString power

/-- How a double is written. -/
structure FloatStyle where
  /-- From this size on digits are positional. Every style turns to an exponent at `1e16`. -/
  positionalFrom : Float
  /-- Which digits are taken of two that are equally near. -/
  tie : Tie

/-- A double in a style: its shortest digits, with a point or an exponent always. -/
def FloatStyle.write (style : FloatStyle) (x : Float) : String :=
  if x.isNaN then "NaN"
  else
    let sign := if signBit x then "-" else ""
    let size := x.abs
    if size.isInf then sign ++ "inf"
    else if size == 0.0 then sign ++ "0.0"
    else
      let (d, e) := (Binary.ofFloat size).shortest style.tie
      let (d, e) := dropZeros 20 d e
      if size < style.positionalFrom || 1e16 ≤ size then sign ++ scientific d e
      else sign ++ positional d e

end MetricTables.Decimal
