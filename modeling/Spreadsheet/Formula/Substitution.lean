import Spreadsheet.Address.Reference
import Spreadsheet.Formula.Expression
import Spreadsheet.Grid
import Spreadsheet.Numeric.Layout

/-!
# References in arithmetic

The references in an arithmetic text stand for numbers: each is replaced by the number of the cell
that it means, in parentheses, and what results is an expression. A cell without a finite number
counts as zero. The result of a text that is no expression, or has no finite value, is zero as well.
-/

namespace Spreadsheet.Formula

/-- A piece of an arithmetic text. -/
inductive Piece where
  | char (c : Char)
  | reference (spelling : Reference.Spelling)
deriving DecidableEq, Repr

/-- The pieces of an arithmetic text: its references, from the left and each as long as it can be,
and the characters between them. -/
def pieces (text : List Char) : List Piece :=
  match text with
  | [] => []
  | c :: rest =>
    match _ : Reference.Spelling.scan? (c :: rest) with
    | some (spelling, after) => .reference spelling :: pieces after
    | none => .char c :: pieces rest
termination_by text.length
decreasing_by
  · exact Reference.Spelling.length_lt_of_scan? (by assumption)
  · simp

/-- The number that a reference stands for at an anchor. -/
def referencedNumber (view : View) (anchor : Position) (spelling : Reference.Spelling) : Float :=
  let position := ((Reference.ofSpelling? spelling).map (·.relativeTo anchor)).bind
    (·.position? anchor)
  ((position.bind fun p => (view.value p).number?).filter Float.isFinite).getD 0

/-- The text that a piece is replaced by. -/
def Piece.fill (view : View) (anchor : Position) : Piece → List Char
  | .char c => [c]
  | .reference spelling =>
    '(' :: (Numeric.plain.render (referencedNumber view anchor spelling)).toList ++ [')']

/-- An arithmetic text with the references replaced by their numbers. -/
def substitute (text : List Char) (view : View) (anchor : Position) : String :=
  String.ofList ((pieces text).flatMap (·.fill view anchor))

/-- The number that an arithmetic text comes to. -/
def arithmetic (text : List Char) (view : View) (anchor : Position) : Float :=
  if (String.ofList text).utf8ByteSize ≤ Expression.maxLength then
    (numberOf? (substitute text view anchor)).getD 0
  else 0

end Spreadsheet.Formula
