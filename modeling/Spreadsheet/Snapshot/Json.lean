import Spreadsheet.Json.Decode
import Spreadsheet.Json.Printer
import Spreadsheet.Json.Reader
import Spreadsheet.Snapshot.Basic

/-!
# Snapshots as JSON

A snapshot is written as an object with the members `cells`, `columnWidths`, `rowHeights`, `numRows`
and `numCols`. What is not set of a cell or a format is left out, except for the value of a cell.
-/

namespace Spreadsheet

/-! ## Values, formats and cells -/

/-- A value in JSON. -/
def Value.toJson : Value → Json
  | .empty => .null
  | .number x => .ofFloat x
  | .text s => .ofText s

/-- The value that JSON holds. -/
def Value.ofJson? (json : Json) : Option Value :=
  match json with
  | .null => some .empty
  | .number _ => json.float?.map .number
  | .string _ => json.text?.map .text
  | _ => none

/-- The member for something that may be missing. -/
def Json.member {α : Type} (name : String) (write : α → Json) (x : Option α) :
    List (List Char × Json) :=
  (x.map fun x => (name.toList, write x)).toList

/-- A format in JSON. -/
def Format.toJson (f : Format) : Json :=
  .object (Json.member "bold" .bool f.bold ++ Json.member "italic" .bool f.italic
    ++ Json.member "color" .ofText f.color ++ Json.member "bgColor" .ofText f.background
    ++ Json.member "fontSize" .ofFloat f.fontSize)

/-- The format that JSON holds. -/
def Format.ofJson? (json : Json) : Option Format := do
  match ← json.fields? ["bold", "italic", "color", "bgColor", "fontSize"] with
  | [bold, italic, color, background, fontSize] =>
    return {
      bold := ← Json.optional? Json.bool? bold
      italic := ← Json.optional? Json.bool? italic
      color := ← Json.optional? Json.text? color
      background := ← Json.optional? Json.text? background
      fontSize := ← Json.optional? Json.float? fontSize }
  | _ => none

/-- A cell in JSON. -/
def Cell.toJson (c : Cell) : Json :=
  .object (("value".toList, c.value.toJson) :: Json.member "formula" .ofText c.formula
    ++ Json.member "format" Format.toJson c.format)

/-- The cell that JSON holds. -/
def Cell.ofJson? (json : Json) : Option Cell := do
  match ← json.fields? ["value", "formula", "format"] with
  | [value, formula, format] =>
    return {
      value := ← Json.withUsual? .empty Value.ofJson? value
      formula := ← Json.optional? Json.text? formula
      format := ← Json.optional? Format.ofJson? format }
  | _ => none

/-! ## Snapshots -/

namespace Snapshot

/-- Widths or heights in JSON. -/
def sizesToJson (sizes : Sizes) : Json :=
  .object (sizes.toList.map fun (index, size) => (Numeric.digitChars index, .ofFloat size))

/-- A snapshot in JSON. -/
def toJson (s : Snapshot) : Json :=
  .object [
    ("cells".toList,
      .object (s.cells.toList.map fun (key, c) => (Json.escape key.toList, c.toJson))),
    ("columnWidths".toList, sizesToJson s.widths),
    ("rowHeights".toList, sizesToJson s.heights),
    ("numRows".toList, .ofIndex s.rows),
    ("numCols".toList, .ofIndex s.cols)]

/-- The snapshot that JSON holds. -/
def ofJson? (json : Json) : Option Snapshot := do
  match ← json.fields? ["cells", "columnWidths", "rowHeights", "numRows", "numCols"] with
  | [cells, widths, heights, some rows, some cols] =>
    return {
      cells := ← Json.withUsual? ∅ (Json.map? Json.textKey? Cell.ofJson?) cells
      widths := ← Json.withUsual? ∅ (Json.map? Json.indexKey? Json.float?) widths
      heights := ← Json.withUsual? ∅ (Json.map? Json.indexKey? Json.float?) heights
      rows := ← rows.index?
      cols := ← cols.index? }
  | _ => none

/-- The text of a document as it is stored. -/
def write (d : Document) : String := (ofDocument d).toJson.text

/-- The document that a text stores. -/
def read (text : String) : Except Error Document :=
  match (Json.parse? text).bind ofJson? with
  | some s => s.document
  | none => .error .malformed

end Snapshot

end Spreadsheet
