import Spreadsheet.Cell.Basic
import Spreadsheet.Document.Error
import Spreadsheet.Grid
import Std.Data.ExtTreeMap

/-!
# Documents

A document is a sheet: its size, the cells that hold something, and the widths and heights that
differ from the usual ones. A cell that is not stored is blank, and a blank cell is not stored.
-/

namespace Spreadsheet

/-- Cells by position, in the order of rows and then of columns. -/
abbrev Cells := Std.ExtTreeMap Position Cell Position.order

/-- Widths or heights by index. -/
abbrev Sizes := Std.ExtTreeMap Nat Float

/-- A sheet. -/
structure Document where
  rows : Nat
  cols : Nat
  cells : Cells := ∅
  widths : Sizes := ∅
  heights : Sizes := ∅

namespace Document

/-- The number of rows of a sheet that nothing else is said about. -/
def usualRows : Nat := 50

/-- The number of columns of a sheet that nothing else is said about. -/
def usualCols : Nat := 26

/-- The width of a column that none was set for. -/
def usualWidth : Float := 64

/-- The height of a row that none was set for. -/
def usualHeight : Float := 24

/-- A sheet without cells. It has at least one row and one column. -/
def empty (rows cols : Nat) : Document := { rows := max rows 1, cols := max cols 1 }

instance : Inhabited Document := ⟨empty usualRows usualCols⟩

/-- The cell at a position. -/
def cell (d : Document) (p : Position) : Cell := d.cells[p]?.getD {}

/-- The value at a position. -/
def value (d : Document) (p : Position) : Value := (d.cell p).value

/-- The width of a column. -/
def width (d : Document) (col : Nat) : Float := d.widths[col]?.getD usualWidth

/-- The height of a row. -/
def height (d : Document) (row : Nat) : Float := d.heights[row]?.getD usualHeight

/-- What a formula sees of the sheet. -/
def view (d : Document) : View := ⟨d.rows, d.cols, d.value⟩

/-- The values of the sheet as a dense grid. -/
def toGrid (d : Document) : Grid :=
  d.cells.foldl (fun grid p c => grid.set p c.value) (.blank d.rows d.cols)

/-- The number of rows or columns. -/
def length (d : Document) : Axis → Nat
  | .row => d.rows
  | .column => d.cols

/-- The sizes that are set along an axis: heights of rows, widths of columns. -/
def sizes (d : Document) : Axis → Sizes
  | .row => d.heights
  | .column => d.widths

/-- The sheet with another length and other sizes along an axis. -/
def withAxis (d : Document) (axis : Axis) (length : Nat) (sizes : Sizes) : Document :=
  match axis with
  | .row => { d with rows := length, heights := sizes }
  | .column => { d with cols := length, widths := sizes }

/-- Fails for a position outside the sheet. -/
def requireInside (d : Document) (p : Position) : Except Error Unit :=
  if p.row < d.rows ∧ p.col < d.cols then .ok () else .error (.outsideGrid p d.rows d.cols)

/-- The cells with one of them replaced. A blank one is dropped. -/
def putCell (cells : Cells) (p : Position) (c : Cell) : Cells :=
  if c.isBlank then cells.erase p else cells.insert p c

/-- The sheet with a cell replaced. -/
def put (d : Document) (p : Position) (c : Cell) : Document :=
  { d with cells := putCell d.cells p c }

/-- Equality of lists of entries, the values of a key compared by `same`. -/
def sameEntries {κ α : Type} [BEq κ] (same : α → α → Bool) :
    List (κ × α) → List (κ × α) → Bool
  | [], [] => true
  | (k, x) :: xs, (l, y) :: ys => k == l && same x y && sameEntries same xs ys
  | _, _ => false

/-- Equality of sheets, with all numbers compared as numbers. -/
def same (d e : Document) : Bool :=
  d.rows == e.rows && d.cols == e.cols
    && sameEntries Cell.same d.cells.toList e.cells.toList
    && sameEntries (fun x y : Float => x == y) d.widths.toList e.widths.toList
    && sameEntries (fun x y : Float => x == y) d.heights.toList e.heights.toList

end Document

end Spreadsheet
