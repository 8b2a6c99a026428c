import Spreadsheet.Address.Position

/-!
# Axes

A sheet extends along two axes. Inserting an index on an axis opens a gap at it and deleting one
closes it: `openGap` and `closeGap?` say where the other indices go.
-/

namespace Spreadsheet

/-- What a sheet is made of along one direction. -/
inductive Axis where
  | row
  | column
deriving DecidableEq, Repr

/-- The name of the axis in messages. -/
def Axis.name : Axis → String
  | .row => "row"
  | .column => "column"

/-- The index of a position on an axis. -/
def Position.index (p : Position) : Axis → Nat
  | .row => p.row
  | .column => p.col

/-- The position with another index on an axis. -/
def Position.withIndex (p : Position) (axis : Axis) (index : Nat) : Position :=
  match axis with
  | .row => { p with row := index }
  | .column => { p with col := index }

/-- Where an index goes when one is inserted. -/
def openGap (inserted index : Nat) : Nat := if inserted ≤ index then index + 1 else index

/-- Where an index goes when one is deleted; the deleted one goes nowhere. -/
def closeGap? (deleted index : Nat) : Option Nat :=
  if index = deleted then none else some (if deleted < index then index - 1 else index)

end Spreadsheet
