import Spreadsheet.Numeric.Layout
import Spreadsheet.Numeric.Numeral
import Spreadsheet.Text.Blank

/-!
# Cell values

A cell shows nothing, a number or a text. Text that starts with a numeral also counts as a number
where a formula needs one.
-/

namespace Spreadsheet

/-- What a cell shows. -/
inductive Value where
  | empty
  | number (x : Float)
  | text (s : String)
deriving DecidableEq, Inhabited

namespace Value

/-- Whether there is nothing to show. -/
def isEmpty : Value → Bool
  | .empty => true
  | _ => false

/-- Equality of values: numbers are compared as numbers, so that `0` equals `-0` and no number
equals nothing, itself included. -/
def same : Value → Value → Bool
  | .empty, .empty => true
  | .number x, .number y => x == y
  | .text s, .text t => s == t
  | _, _ => false

/-- The number at the start of a text, blanks before it skipped. -/
def numberInText? (s : String) : Option Float :=
  Numeric.leadingNumber? (Text.trimStart s.toList)

/-- The number that a value counts as in a formula. -/
def number? : Value → Option Float
  | .empty => none
  | .number x => some x
  | .text s => numberInText? s

/-- The text of a value that is one. -/
def text? : Value → Option String
  | .text s => some s
  | _ => none

/-- The value that an input typed into a cell stands for: nothing if it is blank, a number if all of
it reads as a finite one, else the input as it is. -/
def ofInput (input : String) : Value :=
  let trimmed := Text.trim input.toList
  if trimmed.isEmpty then .empty
  else
    match Numeric.readNumber? trimmed with
    | some x => if x.isFinite then .number x else .text input
    | none => .text input

/-- The layout of numbers that are not whole or are `10 ^ 21` and more: the fewest digits, always
positional. -/
def numberLayout : Numeric.Layout where
  positional := none
  pointZero := false
  tie := .up
  nan := "NaN"
  infinity := "Infinity"

/-- A number as it is shown. Whole numbers below `10 ^ 21` show all their digits, and zero no
sign. -/
def displayNumber (x : Float) : String :=
  if x == 0 then "0"
  else if x.isFinite && Numeric.isWhole x && Numeric.wholePart x < Nat.pow 10 21 then
    String.ofList
      ((if Numeric.isNegative x then ['-'] else []) ++ Numeric.digitChars (Numeric.wholePart x))
  else numberLayout.render x

/-- A value as it is shown. -/
def display : Value → String
  | .empty => ""
  | .number x => displayNumber x
  | .text s => s

end Value

end Spreadsheet
