import Spreadsheet.Address.Position
import Spreadsheet.Cell.Value

/-!
# Views and dense grids

A `View` is what a formula sees of a sheet: its size and the value at every position. A `Grid` is a
matrix of values, stored row by row.
-/

namespace Spreadsheet

/-- What a formula sees of a sheet. -/
structure View where
  rows : Nat
  cols : Nat
  /-- The value stored for a position; it counts only inside the view. -/
  stored : Position → Value

/-- Whether a position lies inside the view. -/
def View.Contains (v : View) (p : Position) : Prop := p.row < v.rows ∧ p.col < v.cols

instance (v : View) (p : Position) : Decidable (v.Contains p) :=
  inferInstanceAs (Decidable (p.row < v.rows ∧ p.col < v.cols))

/-- The value at a position, and nothing outside the view. -/
def View.value (v : View) (p : Position) : Value :=
  if v.Contains p then v.stored p else .empty

/-- A matrix of values, stored row by row. -/
structure Grid where
  rows : Nat
  cols : Nat
  values : Array Value
  size_eq : values.size = rows * cols

namespace Grid

/-- A grid without contents. It can be made only if the number of its values is an index. -/
def blank (rows cols : Nat) : Grid :=
  ⟨rows, cols, Array.replicate (rows * cols) .empty, by simp⟩

/-- A grid without contents, if it can be made. -/
def blank? (rows cols : Nat) : Option Grid :=
  if rows * cols ≤ Numeric.maxIndex then some (blank rows cols) else none

/-- The place of a position among the values. -/
def index (g : Grid) (p : Position) : Nat := p.row * g.cols + p.col

/-- Sets the value at a position. Positions outside the grid change nothing. -/
def set (g : Grid) (p : Position) (v : Value) : Grid :=
  if p.row < g.rows ∧ p.col < g.cols then
    { g with values := g.values.setIfInBounds (g.index p) v, size_eq := by simp [g.size_eq] }
  else g

/-- The value at a position, and nothing outside the grid. -/
def value (g : Grid) (p : Position) : Value :=
  if p.row < g.rows ∧ p.col < g.cols then g.values.getD (g.index p) .empty else .empty

/-- Sets the values of a row from a column on. -/
def setRow (g : Grid) (row : Nat) : Nat → List Value → Grid
  | _, [] => g
  | col, v :: rest => (g.set ⟨row, col⟩ v).setRow row (col + 1) rest

/-- Sets the values of consecutive rows. -/
def setRows (g : Grid) : Nat → List (List Value) → Grid
  | _, [] => g
  | row, vs :: rest => (g.setRow row 0 vs).setRows (row + 1) rest

/-- The grid with the given rows, as wide as the longest of them. -/
def ofRows (rows : List (List Value)) : Grid :=
  (blank rows.length (rows.foldl (fun width row => max width row.length) 0)).setRows 0 rows

/-- Cuts a list into pieces of `width`, at most `count` of them. -/
def slices (width : Nat) : Nat → List Value → List (List Value)
  | 0, _ => []
  | count + 1, vs => if vs.isEmpty then [] else vs.take width :: slices width count (vs.drop width)

/-- The rows of the grid; a grid without columns has none to show. -/
def toRows (g : Grid) : List (List Value) :=
  slices (max g.cols 1) g.rows g.values.toList

/-- The grid as a formula sees it. -/
def view (g : Grid) : View := ⟨g.rows, g.cols, g.value⟩

end Grid

end Spreadsheet
