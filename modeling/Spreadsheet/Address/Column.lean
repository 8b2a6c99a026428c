import Spreadsheet.Numeric.Numeral

/-!
# Column names

Columns are named by letters: `A` to `Z`, then `AA`, `AB` and so on. The name of the column with
index `i` writes `i + 1` in base 26 with the digits 1 to 26, so there is no digit zero and every
number has one name.
-/

namespace Spreadsheet.Column

/-- The letter for a digit from 1 to 26, counted from zero. -/
def letter (digit : Nat) : Char := Char.ofNat ('A'.toNat + digit)

/-- The letters that write a positive number, and none for zero. -/
def lettersOf (n : Nat) : List Char :=
  if n = 0 then [] else lettersOf ((n - 1) / 26) ++ [letter ((n - 1) % 26)]
termination_by n

/-- The name of the column with an index. -/
def letters (index : Nat) : List Char := lettersOf (index + 1)

/-- The name of the column with an index, as a string. -/
def name (index : Nat) : String := String.ofList (letters index)

/-- Whether the character is a capital letter of ASCII. -/
def isLetter (c : Char) : Bool := 'A' ≤ c && c ≤ 'Z'

/-- The number that a letter writes, from 1 for `A` to 26 for `Z`. -/
def digit (c : Char) : Nat := c.toNat - 'A'.toNat + 1

/-- The number that letters write behind others that write `n`. Reading ends with `none` at the first
character that is no letter, and where the number goes beyond the greatest index. -/
def readFrom? (n : Nat) : List Char → Option Nat
  | [] => some n
  | c :: cs =>
    if isLetter c then
      let next := 26 * n + digit c
      if next ≤ Numeric.maxIndex then readFrom? next cs else none
    else none

/-- The index of the column with a name; `none` for a text that is no name or names a column beyond
the greatest index. -/
def index? (cs : List Char) : Option Nat :=
  if cs.isEmpty then none else (readFrom? 0 cs).map (· - 1)

end Spreadsheet.Column
