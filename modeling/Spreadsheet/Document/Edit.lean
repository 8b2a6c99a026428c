import Spreadsheet.Block
import Spreadsheet.Document.Basic
import Spreadsheet.Formula.Evaluation

/-!
# Editing documents

Every edit makes a new document. Cells are set, formatted and cleared one by one; rows and columns
are inserted and deleted, and the cells and sizes behind them move along; the rows of a range are
rid of duplicates, and its texts searched and replaced. The text of formulas is never rewritten.
-/

namespace Spreadsheet.Document

/-! ## Single cells -/

/-- Sets the value and the formula of a cell and keeps its format. -/
def setCell (d : Document) (p : Position) (value : Value) (formula : Option String) :
    Except Error Document := do
  d.requireInside p
  return d.put p { d.cell p with value, formula }

/-- The value of a formula in the cell at an anchor. -/
def evaluate (d : Document) (formula : String) (anchor : Position) : Value :=
  Formula.evaluate formula d.view anchor

/-- Sets the value of a cell to that of its formula, if it has one. -/
def evaluateCell (d : Document) (p : Position) : Except Error Document := do
  d.requireInside p
  match (d.cell p).formula with
  | some formula => return d.put p { d.cell p with value := d.evaluate formula p }
  | none => return d

/-- Sets a cell to what was typed into it. A formula is evaluated at once. -/
def setInput (d : Document) (p : Position) (input : String) : Except Error Document := do
  let typed := Cell.ofInput input
  (← d.setCell p typed.value typed.formula).evaluateCell p

/-- Lays a format over that of a cell. -/
def setFormat (d : Document) (p : Position) (format : Format) : Except Error Document := do
  d.requireInside p
  let c := d.cell p
  return d.put p { c with format := some ((c.format.getD {}).overlay format) }

/-- Makes a cell blank. -/
def clearCell (d : Document) (p : Position) : Except Error Document := do
  d.requireInside p
  return { d with cells := d.cells.erase p }

/-! ## Rows and columns -/

/-- Sets the size of a row or column. -/
def setSize (d : Document) (axis : Axis) (index : Nat) (size : Float) : Except Error Document :=
  let limit := d.length axis
  if index < limit then .ok (d.withAxis axis limit ((d.sizes axis).insert index size))
  else .error (.outsideAxis axis index limit)

/-- The map with its keys renamed; those that get no new name are dropped. -/
def rekey {κ α : Type} {order : κ → κ → Ordering} [Std.TransCmp order] (rename : κ → Option κ)
    (entries : Std.ExtTreeMap κ α order) : Std.ExtTreeMap κ α order :=
  .ofList (entries.toList.filterMap fun (k, x) => (rename k).map (·, x)) order

/-- The sheet with the indices of an axis renamed, and another length along it. -/
def renameAxis (d : Document) (axis : Axis) (length : Nat) (rename : Nat → Option Nat) : Document :=
  let moved := d.withAxis axis length (rekey rename (d.sizes axis))
  { moved with cells := rekey (fun p => (rename (p.index axis)).map (p.withIndex axis)) d.cells }

/-- Inserts a blank row or column in front of an index, or at the end. The length is an index like
any other, and wraps around on a sheet that is as long as an index can count. -/
def insert (d : Document) (axis : Axis) (index : Nat) : Except Error Document :=
  let limit := d.length axis
  -- What is stored lies inside, so there is an index for each of the cells and sizes that move.
  if index ≤ limit then
    .ok (d.renameAxis axis (Numeric.wrapIndex (limit + 1)) (some ∘ openGap index))
  else .error (.outsideAxis axis index limit)

/-- Deletes a row or column. The last one stays. -/
def delete (d : Document) (axis : Axis) (index : Nat) : Except Error Document :=
  let limit := d.length axis
  if limit ≤ index then .error (.outsideAxis axis index limit)
  else if limit = 1 then .error (.lastOne axis)
  else .ok (d.renameAxis axis (limit - 1) (closeGap? index))

/-! ## Ranges -/

/-- The rectangle that a range names, in either case and with blanks around. -/
def rectangle (d : Document) (range : String) : Except Error Rectangle :=
  (Formula.rangeRectangle (Text.upperAscii (Text.trim range.toList)) .origin d.rows
    d.cols).mapError .formula

/-- Whether two cells count as duplicates: they have the same value and formula. -/
def duplicate (c d : Cell) : Bool := c.value.same d.value && c.formula == d.formula

/-- The cells of some rows, each with the place it has when the first one stands at `first`. -/
def placed (first : Position) (rows : List (List Cell)) : List (Position × Cell) :=
  rows.zipIdx.flatMap fun (row, i) =>
    row.zipIdx.map fun (c, j) => (⟨first.row + i, first.col + j⟩, c)

/-- The cells with some of them replaced, one after the other. -/
def putCells (cells : Cells) (entries : List (Position × Cell)) : Cells :=
  entries.foldl (fun cells (p, c) => putCell cells p c) cells

/-- Drops the rows of a range that equal an earlier one. The others move up whole, and the rows
that become free are cleared. -/
def removeDuplicateRows (d : Document) (range : String) : Except Error Document := do
  let r ← d.rectangle range
  let kept := Block.removeDuplicates (Block.sameRow duplicate) (r.block d.cell)
  let outside := d.cells.filter fun p _ => ¬ r.Contains p
  return { d with cells := putCells outside (placed r.first kept) }

/-- Replaces the matches of a pattern in the texts of a range. Formulas are left alone. -/
def findAndReplace (d : Document) (range pattern replacement : String) :
    Except Error Document := do
  let r ← d.rectangle range
  match Pattern.parse pattern with
  | .error e => .error (.formula (.invalidPattern e))
  | .ok compiled =>
    return { d with
      cells := d.cells.map fun p c =>
        if r.Contains p ∧ c.formula.isNone then
          { c with value := Block.replaceInValue compiled replacement c.value }
        else c }

/-! ## Recalculation -/

/-- Sets the value of every cell with a formula to that of its formula, evaluated on the sheet as it
was before. -/
def recalculate (d : Document) : Document :=
  { d with
    cells := d.cells.map fun p c =>
      match c.formula with
      | some formula => { c with value := d.evaluate formula p }
      | none => c }

end Spreadsheet.Document
