import Spreadsheet.Numeric.Shortest

/-!
# Laying out decimals

A `Layout` says how the digits of a number are written: when positionally and when with an exponent,
and how whole numbers and the values without digits look. `Layout.render` writes any double so.
-/

namespace Spreadsheet.Numeric

/-- The decisions of a number format. -/
structure Layout where
  /-- The exponents of the leading digit that are written positionally, as a closed range; `none`
  if all are. -/
  positional : Option (Int × Int)
  /-- A whole number ends in `.0`. -/
  pointZero : Bool
  /-- Which of two equally near shortest decimals is written. -/
  tie : Tie
  nan : String
  infinity : String
deriving Repr

/-- The digits of `n` in base ten. -/
def digitChars (n : Nat) : List Char := Nat.toDigits 10 n

/-- The decimal with its point set, zeros added as needed; `pointZero` appends `.0` to a whole
number. -/
def Decimal.positional (d : Decimal) (pointZero : Bool) : List Char :=
  let digits := digitChars d.digits
  if 0 ≤ d.exponent then
    digits ++ List.replicate d.exponent.toNat '0' ++ (if pointZero then ['.', '0'] else [])
  else
    let places := (-d.exponent).toNat
    let padded := List.replicate (places + 1 - digits.length) '0' ++ digits
    padded.take (padded.length - places) ++ '.' :: padded.drop (padded.length - places)

/-- The exponent of the leading digit. -/
def Decimal.leading (d : Decimal) : Int := d.exponent + digitCount d.digits - 1

/-- The decimal as one digit, the others behind a point, and a signed exponent. -/
def Decimal.withExponent (d : Decimal) : List Char :=
  let e := d.leading
  let digits := digitChars d.digits
  digits.take 1 ++ (if digits.length = 1 then [] else '.' :: digits.drop 1)
    ++ 'e' :: (if e < 0 then '-' else '+') :: digitChars e.natAbs

/-- The text of a double. The sign of zero is kept. -/
def Layout.render (l : Layout) (x : Float) : String :=
  if x.isNaN then l.nan
  else
    let sign := if isNegative x then ['-'] else []
    if !x.isFinite then String.ofList sign ++ l.infinity
    else
      let d := (Dyadic.ofFloat x).shortest l.tie
      let positional := match l.positional with
        | none => true
        | some (least, greatest) => least ≤ d.leading && d.leading ≤ greatest
      String.ofList (sign ++ if positional then d.positional l.pointZero else d.withExponent)

/-- Numbers as they are spliced into formulas: the fewest digits, always positional. -/
def plain : Layout where
  positional := none
  pointZero := false
  tie := .up
  nan := "NaN"
  infinity := "inf"

/-- The whole part of a finite double, without sign, as an exact integer. -/
def wholePart (x : Float) : Nat :=
  let d := Dyadic.ofFloat x
  d.mantissa * Nat.pow 2 d.exponent.toNat / Nat.pow 2 (-d.exponent).toNat

/-- Whether a finite double is a whole number. -/
def isWhole (x : Float) : Bool :=
  let d := Dyadic.ofFloat x
  d.mantissa * Nat.pow 2 d.exponent.toNat % Nat.pow 2 (-d.exponent).toNat = 0

end Spreadsheet.Numeric
