import Spreadsheet.Address.Column
import Spreadsheet.Numeric.Layout

/-!
# Positions

A position names a cell by row and column, both counted from zero. Positions are ordered by row,
then by column.
-/

namespace Spreadsheet

/-- The place of a cell. -/
structure Position where
  row : Nat
  col : Nat
deriving DecidableEq, Repr, Inhabited

namespace Position

/-- The order of positions: by row, then by column. -/
def order (p q : Position) : Ordering :=
  compareLex (compareOn Position.row) (compareOn Position.col) p q

instance : Std.TransCmp order :=
  inferInstanceAs (Std.TransCmp (compareLex (compareOn Position.row) (compareOn Position.col)))

instance : Std.LawfulEqCmp order where
  compare_self {p} := by simp [order, compareLex, compareOn]
  eq_of_compare {p q} h := by
    obtain ⟨r, c⟩ := p
    obtain ⟨r', c'⟩ := q
    simp only [order, compareLex, compareOn, Ordering.then_eq_eq, Nat.compare_eq_eq] at h
    simp [h.1, h.2]

/-- The first position. -/
def origin : Position := ⟨0, 0⟩

/-- The name of a position: its column by letters, its row counted from one. -/
def name (p : Position) : String :=
  String.ofList (Column.letters p.col ++ Numeric.digitChars (p.row + 1))

end Position

end Spreadsheet
