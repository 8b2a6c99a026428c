import Spreadsheet.Cell.Value
import Spreadsheet.Text.Casing

/-!
# Built-in functions

An aggregate makes one number of the numbers among its values. A text function changes the text of
a single cell.
-/

namespace Spreadsheet

/-- What a built-in function does with its parameters. -/
inductive Builtin.Action where
  | aggregate (f : List Value → Float)
  | text (f : List Char → List Char)

/-- A built-in function. -/
structure Builtin where
  name : String
  action : Builtin.Action
  description : String

namespace Builtin

/-- The numbers among some values. -/
def numbers (values : List Value) : List Float := values.filterMap Value.number?

/-- The zero that changes no sum, not even one that is `-0`. -/
def neutralZero : Float := -0.0

/-- The sum of the numbers, added from the left. -/
def sum (values : List Value) : Float := (numbers values).foldl (· + ·) neutralZero

/-- How many numbers there are. -/
def count (values : List Value) : Float := Float.ofNat (numbers values).length

/-- The sum of the numbers divided by their count, and zero if there are none. -/
def average (values : List Value) : Float :=
  if (numbers values).isEmpty then 0 else sum values / count values

/-- The greater of two numbers. What is no number loses, and of equal ones the first is kept. -/
def greater (x y : Float) : Float :=
  if x.isNaN then y else if x < y then y else x

/-- The lesser of two numbers. What is no number loses, and of equal ones the first is kept. -/
def lesser (x y : Float) : Float :=
  if x.isNaN then y else if y < x then y else x

/-- The numbers combined from the left, and zero if there are none. -/
def reduce (f : Float → Float → Float) : List Float → Float
  | [] => 0
  | x :: rest => rest.foldl f x

/-- The greatest of the numbers, and zero if there are none. -/
def maximum (values : List Value) : Float := reduce greater (numbers values)

/-- The least of the numbers, and zero if there are none. -/
def minimum (values : List Value) : Float := reduce lesser (numbers values)

/-- All built-in functions. -/
def all : List Builtin := [
  ⟨"SUM", .aggregate sum, "Sum of numeric values"⟩,
  ⟨"AVERAGE", .aggregate average, "Average of numeric values (0 when there are none)"⟩,
  ⟨"MAX", .aggregate maximum, "Largest numeric value (0 when there are none)"⟩,
  ⟨"MIN", .aggregate minimum, "Smallest numeric value (0 when there are none)"⟩,
  ⟨"COUNT", .aggregate count, "Number of numeric values"⟩,
  ⟨"TRIM", .text Text.trim, "Strip leading and trailing whitespace from a cell's text"⟩,
  ⟨"UPPER", .text Text.upper, "Upper-case a cell's text"⟩,
  ⟨"LOWER", .text Text.lower, "Lower-case a cell's text"⟩]

/-- The built-in function with a name. -/
def named? (name : String) : Option Builtin := all.find? (·.name = name)

end Builtin

end Spreadsheet
