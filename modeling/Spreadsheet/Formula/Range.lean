import Spreadsheet.Address.Rectangle
import Spreadsheet.Address.Reference
import Spreadsheet.Formula.Error

/-!
# Ranges

A range is written as two references with a colon between them. It denotes the rectangle between
them, each corner moved to the nearest position of the grid, so a range written backwards denotes
the same rectangle. The parameters of a function contribute the values of their ranges and
references.
-/

namespace Spreadsheet.Formula

/-- The index of a grid axis of the given length that is nearest to a coordinate. -/
def nearestIndex (coordinate : Int) (length : Nat) : Nat := min coordinate.toNat (length - 1)

/-- The position of a grid that is nearest to what a reference means at an anchor. -/
def nearestPosition (r : Reference) (anchor : Position) (rows cols : Nat) : Position :=
  ⟨nearestIndex (r.rowAt anchor) rows, nearestIndex (r.colAt anchor) cols⟩

/-- The two sides of the first colon. -/
def splitRange? (token : List Char) : Option (List Char × List Char) :=
  match token.dropWhile (· ≠ ':') with
  | [] => none
  | _ :: last => some (token.takeWhile (· ≠ ':'), last)

/-- The two references that a range is written with. -/
def rangeCorners? (token : List Char) (anchor : Position) : Option (Reference × Reference) := do
  let (first, last) ← splitRange? token
  let first ← Reference.parseAt? (Text.trim first) anchor
  let last ← Reference.parseAt? (Text.trim last) anchor
  return (first, last)

/-- The rectangle that a range denotes in a grid. -/
def rangeRectangle (token : List Char) (anchor : Position) (rows cols : Nat) :
    Except Error Rectangle :=
  match rangeCorners? token anchor with
  | some (first, last) =>
    .ok (.ofCorners (nearestPosition first anchor rows cols) (nearestPosition last anchor rows cols))
  | none => .error (.invalidRange (String.ofList token))

/-- The value of the cell that a reference means at an anchor, and nothing outside the grid. -/
def referencedValue (r : Reference) (view : View) (anchor : Position) : Value :=
  match r.position? anchor with
  | some p => view.value p
  | none => .empty

/-- The values that a range or a single reference denotes, row by row. A range in a grid without
rows or columns denotes none, however it is written. -/
def rangeBlock (token : List Char) (view : View) (anchor : Position) :
    Except Error (List (List Value)) :=
  if ':' ∈ token then
    if view.rows = 0 ∨ view.cols = 0 then .ok []
    else (rangeRectangle token anchor view.rows view.cols).map (·.block view.value)
  else
    match Reference.parseAt? token anchor with
    | some r => .ok [[referencedValue r view anchor]]
    | none => .error (.invalidReference (String.ofList token))

/-- The values that one parameter contributes: those of a range, that of a reference inside the
grid, and none for anything else. -/
def parameterValues (view : View) (anchor : Position) (parameter : List Char) :
    Except Error (List Value) :=
  if ':' ∈ parameter then (rangeBlock parameter view anchor).map List.flatten
  else
    match (Reference.parseAt? parameter anchor).bind (·.position? anchor) with
    | some p => .ok (if view.Contains p then [view.value p] else [])
    | none => .ok []

/-- The values that the parameters of a function contribute, in order. -/
def parametersValues (parameters : List (List Char)) (view : View) (anchor : Position) :
    Except Error (List Value) :=
  (parameters.mapM (parameterValues view anchor)).map List.flatten

end Spreadsheet.Formula
