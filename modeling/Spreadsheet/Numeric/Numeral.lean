import Spreadsheet.Numeric.Index
import Spreadsheet.Numeric.Shortest

/-!
# Reading numerals

A numeral is digits with an optional point, among or around them, and an optional exponent. Its
value is the double nearest to the decimal it writes, ties to even. `Numeral.scan?` reads the
longest numeral at the start of a text; `readNumber?` reads a whole text as a signed numeral or one
of the names of the values that have no digits.
-/

namespace Spreadsheet.Numeric

/-- Whether the character is an ASCII digit. -/
def isDigit (c : Char) : Bool := '0' ≤ c && c ≤ '9'

/-- The number that a list of digits writes. -/
def digitsValue (digits : List Char) : Nat :=
  digits.foldl (fun n c => 10 * n + (c.toNat - '0'.toNat)) 0

/-- A numeral as written. -/
structure Numeral where
  /-- The digits before the point. -/
  whole : List Char
  /-- The digits behind the point. -/
  fraction : List Char
  /-- The power of ten that the value is scaled by. -/
  exponent : Int
deriving DecidableEq, Repr

/-- The double without bound. -/
def infinity : Float := 1 / 0

/-- The double nearest to the value of a numeral. A leading digit beyond `10 ^ 310` is past the
greatest double and one below `10 ^ -330` past the least, so the power of ten stays small. -/
def Numeral.value (n : Numeral) : Float :=
  let digits := n.whole ++ n.fraction
  let significant := digits.dropWhile (· = '0')
  let exponent := n.exponent - n.fraction.length
  if significant.isEmpty then 0
  else if 310 < significant.length + exponent then infinity
  else if significant.length + exponent < -330 then 0
  else Float.ofScientific (digitsValue significant) (exponent < 0) exponent.natAbs

/-- Splits off a leading sign; the first component says whether it is a minus. -/
def splitSign : List Char → Bool × List Char
  | '-' :: rest => (true, rest)
  | '+' :: rest => (false, rest)
  | cs => (false, cs)

/-- Reads a point and the digits behind it. -/
def scanFraction : List Char → List Char × List Char
  | '.' :: rest => (rest.takeWhile isDigit, rest.dropWhile isDigit)
  | cs => ([], cs)

/-- Reads an exponent mark, an optional sign and digits; nothing is read unless a digit follows. -/
def scanExponent : List Char → Int × List Char
  | [] => (0, [])
  | mark :: rest =>
    let unsigned := (splitSign rest).2
    let digits := unsigned.takeWhile isDigit
    if (mark = 'e' ∨ mark = 'E') ∧ digits ≠ [] then
      let size : Int := digitsValue digits
      (if (splitSign rest).1 then -size else size, unsigned.dropWhile isDigit)
    else (0, mark :: rest)

/-- The longest unsigned numeral at the start of a text, and what follows it. -/
def Numeral.scan? (cs : List Char) : Option (Numeral × List Char) :=
  let whole := cs.takeWhile isDigit
  let (fraction, afterFraction) := scanFraction (cs.dropWhile isDigit)
  if whole = [] ∧ fraction = [] then none
  else
    let (exponent, rest) := scanExponent afterFraction
    some (⟨whole, fraction, exponent⟩, rest)

theorem length_dropWhile_le {α : Type} (p : α → Bool) (l : List α) :
    (l.dropWhile p).length ≤ l.length :=
  (List.dropWhile_sublist p).length_le

theorem length_splitSign_le (cs : List Char) : (splitSign cs).2.length ≤ cs.length := by
  unfold splitSign
  split <;> simp

theorem length_scanExponent_le (cs : List Char) : (scanExponent cs).2.length ≤ cs.length := by
  unfold scanExponent
  split
  · simp
  next mark rest =>
    have h₁ := length_dropWhile_le isDigit (splitSign rest).2
    have h₂ := length_splitSign_le rest
    by_cases h : (mark = 'e' ∨ mark = 'E') ∧ (splitSign rest).2.takeWhile isDigit ≠ []
    · simp only [if_pos h, List.length_cons]
      omega
    · simp only [if_neg h, Nat.le_refl]

theorem length_scanFraction_le (cs : List Char) :
    (scanFraction cs).1.length + (scanFraction cs).2.length ≤ cs.length := by
  unfold scanFraction
  split
  next rest =>
    have h := congrArg List.length (List.takeWhile_append_dropWhile (p := isDigit) (l := rest))
    simp only [List.length_append] at h
    simp only [List.length_cons]
    omega
  · simp

/-- A numeral takes at least one character. -/
theorem Numeral.length_lt_of_scan? {cs rest : List Char} {n : Numeral}
    (h : Numeral.scan? cs = some (n, rest)) : rest.length < cs.length := by
  simp only [Numeral.scan?] at h
  split at h
  · cases h
  next hne =>
    simp only [Option.some.injEq, Prod.mk.injEq] at h
    have h₁ := length_scanExponent_le (scanFraction (cs.dropWhile isDigit)).2
    have h₂ := length_scanFraction_le (cs.dropWhile isDigit)
    have h₃ := congrArg List.length (List.takeWhile_append_dropWhile (p := isDigit) (l := cs))
    simp only [List.length_append] at h₃
    have h₄ : 0 < (cs.takeWhile isDigit).length
        ∨ 0 < (scanFraction (cs.dropWhile isDigit)).1.length := by
      simp only [List.length_pos_iff]
      grind
    rw [← h.2]
    omega

/-- The number with the given sign. -/
def withSign (negative : Bool) (x : Float) : Float := if negative then -x else x

/-- The value that a name stands for: infinity or no number, in any case of its letters. -/
def namedNumber? (cs : List Char) : Option Float :=
  let name := String.ofList (cs.map Char.toLower)
  if name = "inf" ∨ name = "infinity" then some infinity
  else if name = "nan" then some (0 / 0)
  else none

/-- Reads a whole text as a number: an optional sign, then a numeral or a name. -/
def readNumber? (cs : List Char) : Option Float :=
  let (negative, unsigned) := splitSign cs
  match Numeral.scan? unsigned with
  | some (numeral, []) => some (withSign negative numeral.value)
  | some (_, _ :: _) => none
  | none => (namedNumber? unsigned).map (withSign negative)

/-- The number at the start of a text: the longest signed numeral there. -/
def leadingNumber? (cs : List Char) : Option Float :=
  let (negative, unsigned) := splitSign cs
  (Numeral.scan? unsigned).map fun (numeral, _) => withSign negative numeral.value

/-- Reads a whole text as an index: digits, after an optional plus sign, of a number up to
`maxIndex`. -/
def readIndex? (cs : List Char) : Option Nat :=
  let digits := match cs with
    | '+' :: rest => rest
    | _ => cs
  if digits.isEmpty || !digits.all isDigit then none
  else
    let n := digitsValue digits
    if n ≤ maxIndex then some n else none

end Spreadsheet.Numeric
