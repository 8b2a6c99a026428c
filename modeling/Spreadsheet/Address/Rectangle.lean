import Spreadsheet.Grid

/-!
# Rectangles

A rectangle of positions is given by its first and its last position, both of which belong to it.
Its positions are listed row by row. One that reaches over all indices of an axis has one row or
column more than an index can count.
-/

namespace Spreadsheet

/-- The positions from `first` to `last`, on both axes. -/
structure Rectangle where
  first : Position
  last : Position
deriving DecidableEq, Repr

namespace Rectangle

/-- The least rectangle with two given positions. -/
def ofCorners (p q : Position) : Rectangle where
  first := ⟨min p.row q.row, min p.col q.col⟩
  last := ⟨max p.row q.row, max p.col q.col⟩

/-- How many rows there are. -/
def height (r : Rectangle) : Nat := r.last.row - r.first.row + 1

/-- How many columns there are. -/
def width (r : Rectangle) : Nat := r.last.col - r.first.col + 1

/-- The number of rows as an index. It wraps around for a rectangle with a row for every index. -/
def rowCount (r : Rectangle) : Nat := Numeric.wrapIndex r.height

/-- The number of columns as an index. It wraps around for a rectangle with a column for every
index. -/
def colCount (r : Rectangle) : Nat := Numeric.wrapIndex r.width

/-- Whether a position lies in the rectangle. -/
def Contains (r : Rectangle) (p : Position) : Prop :=
  (r.first.row ≤ p.row ∧ p.row ≤ r.last.row) ∧ r.first.col ≤ p.col ∧ p.col ≤ r.last.col

instance (r : Rectangle) (p : Position) : Decidable (r.Contains p) :=
  inferInstanceAs (Decidable
    ((r.first.row ≤ p.row ∧ p.row ≤ r.last.row) ∧ r.first.col ≤ p.col ∧ p.col ≤ r.last.col))

/-- The position at an index of the list of positions. -/
def positionAt (r : Rectangle) (index : Nat) : Position :=
  ⟨r.first.row + index / r.width, r.first.col + index % r.width⟩

/-- The first positions of the rectangle, at most `count` of them. -/
def firstPositions (r : Rectangle) (count : Nat) : List Position :=
  (List.range (min count (r.height * r.width))).map r.positionAt

/-- The positions of the rectangle, row by row. -/
def positions (r : Rectangle) : List Position := r.firstPositions (r.height * r.width)

/-- The rectangle with `f` applied to every position. -/
def block {α : Type} (r : Rectangle) (f : Position → α) : List (List α) :=
  (List.range r.height).map fun i =>
    (List.range r.width).map fun j => f ⟨r.first.row + i, r.first.col + j⟩

end Rectangle

end Spreadsheet
