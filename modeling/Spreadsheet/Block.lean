import Spreadsheet.Cell.Value
import Spreadsheet.Formula.Error
import Spreadsheet.Pattern.Replacement

/-!
# Blocks of values

A block is a list of rows. `Block.removeDuplicates` keeps the first of equal rows, in order, and
`Block.findAndReplace` replaces the matches of a pattern in the texts of a block.
-/

namespace Spreadsheet.Block

/-- Equality of rows, by an equality of their entries. -/
def sameRow {α : Type} (same : α → α → Bool) : List α → List α → Bool
  | [], [] => true
  | x :: xs, y :: ys => same x y && sameRow same xs ys
  | _, _ => false

/-- The indices, counted from `index`, of the rows that equal none of the kept rows before them;
each such row is kept. -/
def firstOccurrencesFrom {α : Type} (same : α → α → Bool) :
    (index : Nat) → (kept : List α) → List α → List Nat
  | _, _, [] => []
  | index, kept, row :: rest =>
    if kept.any (same · row) then firstOccurrencesFrom same (index + 1) kept rest
    else index :: firstOccurrencesFrom same (index + 1) (row :: kept) rest

/-- The indices of the rows that equal no earlier row, in order. -/
def firstOccurrences {α : Type} (same : α → α → Bool) (rows : List α) : List Nat :=
  firstOccurrencesFrom same 0 [] rows

/-- The first of each kind of equal rows, in order. -/
def removeDuplicates {α : Type} (same : α → α → Bool) (rows : List α) : List α :=
  (firstOccurrences same rows).filterMap (rows[·]?)

/-- A text with the matches of a pattern replaced; other values stay as they are. -/
def replaceInValue (pattern : Pattern) (replacement : String) : Value → Value
  | .text s => .text (pattern.replaceAll replacement s)
  | value => value

/-- A block with the matches of a pattern replaced in its texts. -/
def findAndReplace (block : List (List Value)) (pattern replacement : String) :
    Except Formula.Error (List (List Value)) :=
  match Pattern.parse pattern with
  | .ok p => .ok (block.map (·.map (replaceInValue p replacement)))
  | .error e => .error (.invalidPattern e)

end Spreadsheet.Block
