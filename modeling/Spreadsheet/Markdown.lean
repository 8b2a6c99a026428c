import Spreadsheet.Document.Basic
import Spreadsheet.Address.Rectangle

/-!
# Documents as Markdown

A document is shown as a table of the least rectangle that holds all its values, with the letters of
the columns above and the numbers of the rows at the left.
-/

namespace Spreadsheet.Markdown

/-- The least rectangle that holds a rectangle, if there is one, and a position. -/
def cover (r : Option Rectangle) (p : Position) : Option Rectangle :=
  match r with
  | none => some ⟨p, p⟩
  | some r => some {
      first := ⟨min r.first.row p.row, min r.first.col p.col⟩
      last := ⟨max r.last.row p.row, max r.last.col p.col⟩ }

/-- The least rectangle that holds all values of a document; `none` if it has no values. -/
def populated? (d : Document) : Option Rectangle :=
  d.cells.foldl (fun r p c => if c.value.isEmpty then r else cover r p) none

/-- A character of a text in a table. What would end the cell or the line does not appear. -/
def escapeChar : Char → List Char
  | '|' => ['\\', '|']
  | '\n' => [' ']
  | '\r' => []
  | c => [c]

/-- A text in a table. -/
def escape (text : String) : String := String.ofList (text.toList.flatMap escapeChar)

/-- A cell of the table and its right border. -/
def entry (text : String) : String := " " ++ text ++ " |"

/-- A line of the table. -/
def line (parts : List String) : String := String.join parts ++ "\n"

/-- The table of a rectangle of a document. -/
def table (d : Document) (r : Rectangle) : String :=
  let cols := (List.range r.width).map (r.first.col + ·)
  let rows := (List.range r.height).map (r.first.row + ·)
  line ("|   |" :: cols.map fun col => entry (Column.name col))
    ++ line ("|---|" :: cols.map fun _ => "---|")
    ++ String.join (rows.map fun row =>
      line (("|" ++ entry (toString (row + 1))) ::
        cols.map fun col => entry (escape (d.value ⟨row, col⟩).display)))

/-- The text of a document. -/
def render (d : Document) : String :=
  "# Sheet\n\n" ++ match populated? d with
    | some r => table d r
    | none => "*Empty spreadsheet*\n"

end Spreadsheet.Markdown
