import Spreadsheet.Document.Edit
import Spreadsheet.Text.Quoted

/-!
# Snapshots

A snapshot is a document as it is stored: cells by key, where a key is a row and a column, counted
from zero, with a comma between them. Loading a snapshot checks that everything lies inside the
sheet.
-/

namespace Spreadsheet

/-- A document as it is stored. -/
structure Snapshot where
  cells : Std.ExtTreeMap String Cell := ∅
  widths : Sizes := ∅
  heights : Sizes := ∅
  rows : Nat
  cols : Nat

namespace Snapshot

/-- Why a snapshot cannot be loaded. -/
inductive Error where
  /-- The text is not JSON of the right shape. -/
  | malformed
  | tooSmall (rows cols : Nat)
  | invalidKey (key : String)
  | document (error : Document.Error)
deriving DecidableEq, Repr

/-- The text of an error. What is wrong with malformed text is not explained. -/
def Error.message : Error → String
  | .malformed => "JSON error: not a snapshot"
  | .tooSmall rows cols =>
    s!"Invalid snapshot: dimensions must be at least 1x1, got {rows}x{cols}"
  | .invalidKey key => "Invalid cell key: " ++ Text.quoted key
  | .document error => error.message

/-- The key of a position. -/
def key (p : Position) : String :=
  String.ofList (Numeric.digitChars p.row ++ ',' :: Numeric.digitChars p.col)

/-- The position with a key. Blanks around either number do not count. -/
def position? (key : String) : Option Position :=
  let row := key.toList.takeWhile (· ≠ ',')
  match key.toList.dropWhile (· ≠ ',') with
  | [] => none
  | _ :: col =>
    match Numeric.readIndex? (Text.trim row), Numeric.readIndex? (Text.trim col) with
    | some row, some col => some ⟨row, col⟩
    | _, _ => none

/-- The snapshot of a document. -/
def ofDocument (d : Document) : Snapshot where
  cells := .ofList (d.cells.toList.map fun (p, c) => (key p, c))
  widths := d.widths
  heights := d.heights
  rows := d.rows
  cols := d.cols

/-- Puts a stored cell into a document. -/
def loadCell (d : Document) (key : String) (c : Cell) : Except Error Document :=
  match position? key with
  | none => .error (.invalidKey key)
  | some p => ((d.requireInside p).map fun _ => d.put p c).mapError .document

/-- Sets the stored sizes along an axis. -/
def loadSizes (d : Document) (axis : Axis) (sizes : Sizes) : Except Error Document :=
  (sizes.toList.foldlM (fun (d : Document) (index, size) => d.setSize axis index size) d).mapError
    .document

/-- The document that a snapshot stores. The cells are put in the order of their keys. -/
def document (s : Snapshot) : Except Error Document := do
  if s.rows = 0 ∨ s.cols = 0 then throw (.tooSmall s.rows s.cols)
  let d ← s.cells.toList.foldlM (fun d (key, c) => loadCell d key c) (.empty s.rows s.cols)
  let d ← loadSizes d .column s.widths
  loadSizes d .row s.heights

end Snapshot

end Spreadsheet
