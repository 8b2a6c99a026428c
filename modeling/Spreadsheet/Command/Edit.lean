import Spreadsheet.Document.Edit

/-!
# Edits on the command line

An edit names what it changes as the user does: rows by number, columns by letters.
-/

namespace Spreadsheet.Command

/-- An edit that was asked for on the command line. -/
inductive Edit where
  | set (p : Position) (input : String)
  | insert (axis : Axis) (index : Nat)
  | delete (axis : Axis) (index : Nat)
deriving DecidableEq, Repr

/-- An index as the user writes it. -/
def indexName (axis : Axis) (index : Nat) : String :=
  match axis with
  | .row => toString (index + 1)
  | .column => Column.name index

/-- The axis in the names of options. -/
def axisSuffix : Axis → String
  | .row => "row"
  | .column => "col"

namespace Edit

/-- The edit as an option. -/
def text : Edit → String
  | .set p input => s!"--set {p.name}={input}"
  | .insert axis index => s!"--insert-{axisSuffix axis} {indexName axis index}"
  | .delete axis index => s!"--delete-{axisSuffix axis} {indexName axis index}"

/-- Makes the edit. -/
def apply (e : Edit) (d : Document) : Except Document.Error Document :=
  match e with
  | .set p input => d.setInput p input
  | .insert axis index => d.insert axis index
  | .delete axis index => d.delete axis index

end Edit

end Spreadsheet.Command
