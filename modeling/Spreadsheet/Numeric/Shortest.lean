/-!
# Shortest decimals

The shortest decimal of a finite double is the decimal with the fewest digits that still reads back
to it; of several with equally few digits, the one nearest to its exact value. The search is exact:
it compares natural numbers only.

A positive finite double is `mantissa · 2 ^ exponent`. The real numbers that round to it form an
interval, from halfway to the double below to halfway to the double above; its ends belong to it
exactly when the mantissa is even. A decimal reads back when it lies in that interval.
-/

namespace Spreadsheet.Numeric

/-- The absolute value of a finite double, `mantissa · 2 ^ exponent`. -/
structure Dyadic where
  mantissa : Nat
  exponent : Int
  /-- The gap to the double below is half the gap to the double above. -/
  narrowBelow : Bool
deriving DecidableEq, Repr

/-- The absolute value of a finite double, from its bits. -/
def Dyadic.ofFloat (x : Float) : Dyadic :=
  let bits : Nat := x.toBits.toNat
  let biased : Nat := bits / 0x10000000000000 % 0x800
  let fraction : Nat := bits % 0x10000000000000
  if biased = 0 then ⟨fraction, -1074, false⟩
  else ⟨0x10000000000000 + fraction, (biased : Int) - 1075, fraction = 0 && biased > 1⟩

/-- Whether the sign bit of a double is set. -/
def isNegative (x : Float) : Bool := x.toBits.toNat / 0x8000000000000000 = 1

/-- The decimal `digits · 10 ^ exponent`. -/
structure Decimal where
  digits : Nat
  exponent : Int
deriving DecidableEq, Repr

/-- What to choose where two shortest decimals are equally near. -/
inductive Tie where
  /-- The greater of the two. -/
  | up
  /-- The one with an even last digit. -/
  | even
deriving DecidableEq, Repr

/-- The number of decimal digits of `n`, and one for zero. -/
def digitCount (n : Nat) : Nat :=
  if n < 10 then 1 else digitCount (n / 10) + 1

/-- A value and the interval of what rounds to it, over one denominator. -/
structure Rounding where
  value : Nat
  low : Nat
  high : Nat
  denominator : Nat
  /-- The ends of the interval belong to it. -/
  closed : Bool

/-- The interval of what rounds to a dyadic value. -/
def Dyadic.rounding (d : Dyadic) : Rounding :=
  let unit := Nat.pow 2 d.exponent.toNat
  let value := 4 * d.mantissa * unit
  { value
    low := value - (if d.narrowBelow then unit else 2 * unit)
    high := value + 2 * unit
    denominator := 4 * Nat.pow 2 (-d.exponent).toNat
    closed := d.mantissa % 2 = 0 }

/-- Whether the fraction `n / r.denominator` reads back to the value. -/
def Rounding.admits (r : Rounding) (n : Nat) : Bool :=
  if r.closed then r.low ≤ n && n ≤ r.high else r.low < n && n < r.high

/-- The least `k` with the value below `10 ^ k`, for a value other than zero. -/
def Rounding.scale (r : Rounding) : Int :=
  if r.denominator ≤ r.value then digitCount (r.value / r.denominator)
  else 1 - (digitCount ((r.denominator - 1) / r.value) : Int)

/-- The interval with value and ends multiplied by `n`. -/
def Rounding.scaleBy (r : Rounding) (n : Nat) : Rounding :=
  { r with value := r.value * n, low := r.low * n, high := r.high * n }

/-- The multiple of `10 ^ grid` next to the value that reads back, if one does. -/
def Rounding.onGrid? (r : Rounding) (tie : Tie) (grid : Int) : Option Decimal :=
  let step := r.denominator * Nat.pow 10 grid.toNat
  let r := r.scaleBy (Nat.pow 10 (-grid).toNat)
  let below := r.value / step
  let takeAbove :=
    match r.admits (below * step), r.admits ((below + 1) * step) with
    | false, true => true
    | true, true =>
      let twice := 2 * r.value
      let middle := (2 * below + 1) * step
      middle < twice || (middle == twice && match tie with | .up => true | .even => below % 2 = 1)
    | _, false => false
  if takeAbove then some ⟨below + 1, grid⟩
  else if r.admits (below * step) then some ⟨below, grid⟩
  else none

/-- The decimal without trailing zeros among its digits; at most `fuel` are dropped. -/
def Decimal.dropZeros : Nat → Decimal → Decimal
  | 0, d => d
  | fuel + 1, d =>
    if d.digits ≠ 0 ∧ d.digits % 10 = 0 then dropZeros fuel ⟨d.digits / 10, d.exponent + 1⟩ else d

/-- The exact value, which always reads back. -/
def Dyadic.exact (d : Dyadic) : Decimal :=
  ⟨d.mantissa * Nat.pow 2 d.exponent.toNat * Nat.pow 5 (-d.exponent).toNat, min d.exponent 0⟩

/-- The shortest decimal that reads back to a dyadic value. Seventeen digits are enough for every
double; were they not, the answer would be the exact value. -/
def Dyadic.shortest (d : Dyadic) (tie : Tie) : Decimal :=
  if d.mantissa = 0 then ⟨0, 0⟩
  else
    let r := d.rounding
    let k := r.scale
    let found := (List.range 17).findSome? fun n => r.onGrid? tie (k - (n + 1 : Nat))
    (found.getD d.exact).dropZeros 400

end Spreadsheet.Numeric
