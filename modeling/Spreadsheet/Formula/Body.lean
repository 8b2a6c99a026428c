import Spreadsheet.Address.Column
import Spreadsheet.Text.Blank
import Spreadsheet.Text.Casing

/-!
# The body of a formula

A formula is a text that starts with an equals sign. What follows, in capitals, is either a call of
a function by its name, as in `SUM(A1:B3, C1)`, or an arithmetic text. The parameters of a call are
the pieces between the commas that stand outside parentheses.
-/

namespace Spreadsheet.Formula

/-- What stands behind the equals sign of a formula. -/
inductive Body where
  | call (name args : List Char)
  | arithmetic (text : List Char)
deriving DecidableEq, Repr

/-- Whether a character can stand in the name of a function. -/
def isNameChar (c : Char) : Bool := Column.isLetter c || c = '_'

/-- The body with the given text: a call if it is a name, an opening parenthesis, arguments on one
line, and a closing parenthesis at the very end. -/
def Body.ofText (text : List Char) : Body :=
  let name := text.takeWhile isNameChar
  match text.dropWhile isNameChar with
  | '(' :: rest =>
    if name ≠ [] ∧ rest.getLast? = some ')' ∧ '\n' ∉ rest then .call name rest.dropLast
    else .arithmetic text
  | _ => .arithmetic text

/-- The body of a formula; `none` for a text that is no formula. -/
def body? (formula : String) : Option Body :=
  match formula.toList with
  | '=' :: text => some (.ofText (Text.upper text))
  | _ => none

/-- The depth of parentheses behind a character. Closing ones that were never opened count below
zero.

The depth has no bound here. The program keeps it in 32 bits, which makes a difference only to texts
with `2 ^ 31` parentheses of a kind or more. -/
def depthAfter (depth : Int) (c : Char) : Int :=
  if c = '(' then depth + 1 else if c = ')' then depth - 1 else depth

/-- The pieces of a text between the commas at depth zero, from a place of the given depth on. -/
def piecesFrom (depth : Int) : List Char → List (List Char)
  | [] => [[]]
  | c :: rest =>
    if c = ',' ∧ depth = 0 then [] :: piecesFrom depth rest
    else (piecesFrom (depthAfter depth c) rest).modifyHead (c :: ·)

/-- The parameters that an argument text lists, without blanks around them. An empty last one is
none. -/
def parameters (args : List Char) : List (List Char) :=
  let pieces := (piecesFrom 0 args).map Text.trim
  if pieces.getLast? = some [] then pieces.dropLast else pieces

end Spreadsheet.Formula
