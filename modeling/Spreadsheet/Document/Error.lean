import Spreadsheet.Address.Axis
import Spreadsheet.Formula.Error

/-!
# Edit errors

Why an edit of a document cannot be made.
-/

namespace Spreadsheet.Document

/-- Why an edit cannot be made. -/
inductive Error where
  | outsideGrid (position : Position) (rows cols : Nat)
  | outsideAxis (axis : Axis) (index limit : Nat)
  | lastOne (axis : Axis)
  | formula (error : Formula.Error)
deriving DecidableEq, Repr

/-- The text of an error. -/
def Error.message : Error → String
  | .outsideGrid p rows cols => s!"Cell {p.name} is outside the {rows}x{cols} grid"
  | .outsideAxis axis index limit => s!"{axis.name} index {index} is outside 0..{limit}"
  | .lastOne axis => s!"Cannot delete the last {axis.name}"
  | .formula error => error.message

end Spreadsheet.Document
