import Spreadsheet.Proofs.Address.Column
import Spreadsheet.Proofs.Address.Rectangle
import Spreadsheet.Proofs.Document.Same
import Spreadsheet.Proofs.Markdown.Fields
import Spreadsheet.Proofs.Markdown.Populated
import Spreadsheet.Proofs.Numeric.Digits
import Spreadsheet.Text.Split

/-!
# The table of a document

A document with values is shown as a title, a blank line and the lines of a table, which are fields
between bars (`toList_render`). No text in a cell adds a line or a field (`render_isTable`), so the
lines and the fields are found again by looking for line feeds and bars (`field?_render`). Looked up
like that, every value of the document stands behind the number of its row and below the letters of
its column (`render_shows_values`).
-/

namespace Spreadsheet

/-! ## Lines -/

/-- Lines, each ended by a line feed. -/
def Text.unlines (lines : List (List Char)) : List Char := lines.flatMap (· ++ ['\n'])

theorem Text.split_append_cons {separator : Char} {piece : List Char} (h : separator ∉ piece)
    (rest : List Char) :
    split separator (piece ++ separator :: rest) = piece :: split separator rest := by
  induction piece with
  | nil => exact if_pos rfl
  | cons c piece ih =>
    obtain ⟨hc, hpiece⟩ := not_or.mp (mt List.mem_cons.mpr h)
    have hstep : split separator (c :: (piece ++ separator :: rest)) =
        (split separator (piece ++ separator :: rest)).modifyHead (c :: ·) :=
      if_neg fun he => hc he.symm
    rw [List.cons_append, hstep, ih hpiece, List.modifyHead_cons]

theorem Text.split_unlines {lines : List (List Char)} (h : ∀ line ∈ lines, '\n' ∉ line) :
    split '\n' (unlines lines) = lines ++ [[]] := by
  induction lines with
  | nil => rfl
  | cons line lines ih =>
    obtain ⟨hline, hlines⟩ := List.forall_mem_cons.mp h
    have hcons : unlines (line :: lines) = line ++ '\n' :: unlines lines :=
      (List.append_cons _ _ _).symm
    rw [hcons, split_append_cons hline, ih hlines, List.cons_append]

namespace Markdown

variable {d e : Document} {r : Rectangle} {p : Position}

/-! ## The lines of a table -/

def columns (r : Rectangle) : List Nat := (List.range r.width).map (r.first.col + ·)

def rows (r : Rectangle) : List Nat := (List.range r.height).map (r.first.row + ·)

def headerFields (r : Rectangle) : List (List Char) :=
  [' ', ' ', ' '] :: (columns r).map fun col => padded (Column.letters col)

def rulerFields (r : Rectangle) : List (List Char) :=
  ['-', '-', '-'] :: (columns r).map fun _ => ['-', '-', '-']

def rowFields (d : Document) (r : Rectangle) (row : Nat) : List (List Char) :=
  padded (Numeric.digitChars (row + 1)) ::
    (columns r).map fun col => padded (escape (d.value ⟨row, col⟩).display).toList

/-- The fields of the lines of a table: the letters of the columns, a ruler, and for each row its
number and its values. -/
def tableFields (d : Document) (r : Rectangle) : List (List (List Char)) :=
  headerFields r :: rulerFields r :: (rows r).map (rowFields d r)

theorem toList_entry (text : String) : (entry text).toList = padded text.toList ++ ['|'] := by
  simp [entry, padded]

theorem toList_line (parts : List String) :
    (line parts).toList = parts.flatMap String.toList ++ ['\n'] := by
  simp [line]

/-- The cells of a line, with the border at the right of each, are its fields. -/
theorem flatMap_entries (indices : List Nat) (text : Nat → String) :
    (indices.map fun i => entry (text i)).flatMap String.toList =
      (indices.map fun i => padded (text i).toList).flatMap (· ++ ['|']) := by
  simp only [List.flatMap_map, toList_entry]

theorem toList_header (r : Rectangle) :
    (line ("|   |" :: (columns r).map fun col => entry (Column.name col))).toList =
      barred (headerFields r) ++ ['\n'] := by
  rw [toList_line, List.flatMap_cons, flatMap_entries]
  simp only [Column.name, String.toList_ofList]
  rfl

theorem toList_ruler (r : Rectangle) :
    (line ("|---|" :: (columns r).map fun _ => "---|")).toList =
      barred (rulerFields r) ++ ['\n'] := by
  rw [toList_line, List.flatMap_cons, List.flatMap_map, rulerFields, barred, List.flatMap_cons,
    List.flatMap_map]
  rfl

theorem toList_row (d : Document) (r : Rectangle) (row : Nat) :
    (line (("|" ++ entry (toString (row + 1))) ::
      (columns r).map fun col => entry (escape (d.value ⟨row, col⟩).display))).toList =
        barred (rowFields d r row) ++ ['\n'] := by
  have hnumber : (toString (row + 1)).toList = Numeric.digitChars (row + 1) := Nat.toList_repr
  rw [toList_line, List.flatMap_cons, flatMap_entries, String.toList_append, toList_entry, hnumber]
  rfl

theorem toList_table (d : Document) (r : Rectangle) :
    (table d r).toList = Text.unlines ((tableFields d r).map barred) := by
  have htable : table d r = line ("|   |" :: (columns r).map fun col => entry (Column.name col))
      ++ line ("|---|" :: (columns r).map fun _ => "---|")
      ++ String.join ((rows r).map fun row => line (("|" ++ entry (toString (row + 1))) ::
        (columns r).map fun col => entry (escape (d.value ⟨row, col⟩).display))) := rfl
  rw [htable, String.toList_append, String.toList_append, toList_header, toList_ruler,
    String.toList_join, List.flatMap_map]
  simp only [toList_row, Text.unlines, tableFields, List.map_cons, List.map_map, List.flatMap_cons,
    List.flatMap_map, List.append_assoc, Function.comp_apply]

theorem isField_letters (col : Nat) : IsField (padded (Column.letters col)) := by
  refine isField_padded_of_forall fun c hc => ?_
  have hletter := Column.isLetter_of_mem_lettersOf hc
  simp only [Column.isLetter, Bool.and_eq_true, decide_eq_true_eq] at hletter
  exact ⟨Nat.le_trans (by decide : '0' ≤ 'A') hletter.1, hletter.2⟩

theorem isField_digits (n : Nat) : IsField (padded (Numeric.digitChars n)) := by
  refine isField_padded_of_forall fun c hc => ?_
  have hdigit := Numeric.isDigit_of_mem_digitChars hc
  simp only [Numeric.isDigit, Bool.and_eq_true, decide_eq_true_eq] at hdigit
  exact ⟨hdigit.1, Nat.le_trans hdigit.2 (by decide : '9' ≤ 'Z')⟩

/-- Whatever the cells hold, every line of a table has one field more than the table has columns. -/
theorem isField_of_mem_tableFields {fs : List (List Char)} (h : fs ∈ tableFields d r) :
    (∀ f ∈ fs, IsField f) ∧ fs.length = r.width + 1 := by
  have hcells : ∀ {first : List Char} {cell : Nat → List Char}, IsField first →
      (∀ col, IsField (cell col)) → (∀ f ∈ first :: (columns r).map cell, IsField f) ∧
        (first :: (columns r).map cell).length = r.width + 1 := by
    intro first cell hfirst hcell
    refine ⟨List.forall_mem_cons.mpr ⟨hfirst, List.forall_mem_map.mpr fun col _ => hcell col⟩, ?_⟩
    simp [columns]
  simp only [tableFields, List.mem_cons, List.mem_map] at h
  rcases h with rfl | rfl | ⟨row, -, rfl⟩
  · exact hcells ⟨rfl, rfl, by decide⟩ isField_letters
  · exact hcells ⟨rfl, rfl, by decide⟩ fun _ => ⟨rfl, rfl, by decide⟩
  · exact hcells (isField_digits _) fun col => isField_padded_escape _

/-- The lines in front of a table: the title and a blank one. -/
def title : List (List Char) := ["# Sheet".toList, []]

theorem toList_render (h : populated? d = some r) :
    (render d).toList = Text.unlines (title ++ (tableFields d r).map barred) := by
  have hrender : render d = "# Sheet\n\n" ++ table d r := by
    unfold render
    rw [h]
  rw [hrender, String.toList_append, toList_table, Text.unlines, Text.unlines, List.flatMap_append]
  rfl

/-! ## Reading a table back -/

theorem onOneLine_of_mem_lines {line : List Char}
    (h : line ∈ title ++ (tableFields d r).map barred) : OnOneLine line := by
  have htitle : ∀ line ∈ title, OnOneLine line := by decide
  rcases List.mem_append.mp h with h | h
  · exact htitle line h
  · obtain ⟨fs, hfs, rfl⟩ := List.mem_map.mp h
    exact onOneLine_barred (isField_of_mem_tableFields hfs).1

/-- A document with values is shown as a title, a blank line and a table with a line of letters, a
ruler and a line for each row of the least rectangle around the values. Whatever stands in the
cells, each of these is a single line, and has two bars that are not escaped more than there are
columns. -/
theorem render_isTable (h : ∃ p, HasValue d p) :
    ∃ (r : Rectangle) (header ruler : List Char) (body : List (List Char)),
      r.IsLeastAround (HasValue d) ∧
        (render d).toList = Text.unlines ("# Sheet".toList :: [] :: header :: ruler :: body) ∧
        body.length = r.height ∧
        ∀ line ∈ header :: ruler :: body, bars line = r.width + 2 ∧ OnOneLine line := by
  obtain ⟨p, hp⟩ := h
  obtain ⟨r, hr⟩ := exists_populated? hp
  refine ⟨r, barred (headerFields r), barred (rulerFields r),
    ((rows r).map (rowFields d r)).map barred, populated?_eq_some_iff.mp hr, toList_render hr,
    by simp [rows], fun line hline => ?_⟩
  have hmem : line ∈ (tableFields d r).map barred := hline
  obtain ⟨fs, hfs, rfl⟩ := List.mem_map.mp hmem
  obtain ⟨hfields, hlength⟩ := isField_of_mem_tableFields hfs
  exact ⟨by rw [bars_barred hfields, hlength], onOneLine_barred hfields⟩

/-- A sheet with bars, a backslash and line ends in its texts, and a cell that has only a format. -/
def crowded : Document :=
  (((Document.empty 4 4).put ⟨1, 1⟩ { value := .text "a|\\" }).put ⟨2, 2⟩
    { value := .text "b\r\n|c" }).put ⟨3, 3⟩ { format := some { bold := true } }

theorem render_isTable_of_crowded :
    (∃ p, HasValue crowded p) ∧
      render crowded =
        "# Sheet\n\n|   | B | C |\n|---|---|---|\n| 2 | a\\|\\ |  |\n| 3 |  | b \\|c |\n" ∧
      ∃ (r : Rectangle) (header ruler : List Char) (body : List (List Char)),
        r.IsLeastAround (HasValue crowded) ∧
          (render crowded).toList =
            Text.unlines ("# Sheet".toList :: [] :: header :: ruler :: body) ∧
          body.length = r.height ∧
          ∀ line ∈ header :: ruler :: body, bars line = r.width + 2 ∧ OnOneLine line := by
  have h : ∃ p, HasValue crowded p := ⟨⟨1, 1⟩, by unfold HasValue; decide +kernel⟩
  exact ⟨h, by decide +kernel, render_isTable h⟩

/-- The field of a text with the given indices of its line and of the field in that, both counted
from zero. -/
def field? (text : String) (line field : Nat) : Option (List Char) :=
  (Text.split '\n' text.toList)[line]?.bind fun l => (fields l)[field]?

/-- What is in front of the lines of the table and of the fields of a line is passed over. -/
theorem field?_render (hr : populated? d = some r) {line field : Nat} {fs : List (List Char)}
    {f : List Char} (hfs : (tableFields d r)[line]? = some fs) (hf : fs[field]? = some f) :
    field? (render d) (line + 2) (field + 1) = some f := by
  have hsplit : Text.split '\n' (render d).toList =
      title ++ ((tableFields d r).map barred ++ [[]]) := by
    rw [toList_render hr, Text.split_unlines fun l hl => (onOneLine_of_mem_lines hl).1,
      List.append_assoc]
  have hline : (Text.split '\n' (render d).toList)[line + 2]? = some (barred fs) := by
    have hlt := (List.getElem?_eq_some_iff.mp hfs).1
    rw [hsplit, List.getElem?_append_right (Nat.le_add_left 2 line)]
    change ((tableFields d r).map barred ++ [[]])[line]? = _
    rw [List.getElem?_append_left (by rwa [List.length_map]), List.getElem?_map, hfs,
      Option.map_some]
  have hfields := (isField_of_mem_tableFields (List.mem_of_getElem? hfs)).1
  have hlt := (List.getElem?_eq_some_iff.mp hf).1
  rw [field?, hline, Option.bind_some, fields_barred hfields, List.getElem?_cons_succ,
    List.getElem?_append_left hlt, hf]

theorem getElem?_columns (hp : r.Contains p) :
    (columns r)[p.col - r.first.col]? = some p.col := by
  rw [columns, List.getElem?_map, List.getElem?_range (Rectangle.col_offset_lt hp),
    Option.map_some, Nat.add_sub_cancel' hp.2.1]

theorem getElem?_rows (hp : r.Contains p) : (rows r)[p.row - r.first.row]? = some p.row := by
  rw [rows, List.getElem?_map, List.getElem?_range (Rectangle.row_offset_lt hp),
    Option.map_some, Nat.add_sub_cancel' hp.1.1]

/-- Whether a text has something in a field of one of its lines, where the line starts with the
number of the row of a position, and the field stands below the letters of its column. -/
structure ShownAt (text : String) (line field : Nat) (p : Position) (shown : String) : Prop where
  row : field? text line 1 = some (padded (toString (p.row + 1)).toList)
  column : field? text 2 field = some (padded (Column.name p.col).toList)
  shown : field? text line field = some (padded (escape shown).toList)

theorem shownAt_render (hr : populated? d = some r) (hp : r.Contains p) :
    ShownAt (render d) (p.row - r.first.row + 4) (p.col - r.first.col + 2) p
      (d.value p).display := by
  have hheader : (tableFields d r)[0]? = some (headerFields r) := rfl
  have hrow : (tableFields d r)[p.row - r.first.row + 2]? = some (rowFields d r p.row) := by
    rw [tableFields, List.getElem?_cons_succ, List.getElem?_cons_succ, List.getElem?_map,
      getElem?_rows hp, Option.map_some]
  have hcell : ∀ {first : List Char} {cell : Nat → List Char},
      (first :: (columns r).map cell)[p.col - r.first.col + 1]? = some (cell p.col) := by
    intro first cell
    rw [List.getElem?_cons_succ, List.getElem?_map, getElem?_columns hp, Option.map_some]
  refine ⟨?_, ?_, field?_render hr hrow hcell⟩
  · have hnumber : (toString (p.row + 1)).toList = Numeric.digitChars (p.row + 1) :=
      Nat.toList_repr
    rw [hnumber]
    exact field?_render hr hrow rfl
  · rw [Column.name, String.toList_ofList]
    exact field?_render hr hheader hcell

/-! ## Equal documents -/

theorem populated?_eq_of_same (h : d.same e) : populated? d = populated? e := by
  have hvalue : HasValue d = HasValue e := by
    funext p
    unfold HasValue
    rw [Value.isEmpty_eq_of_same (Document.same_value h p)]
  have hd := isAround_populated? d
  rw [hvalue] at hd
  exact hd.unique (isAround_populated? e)

theorem render_eq_of_same (h : d.same e) : render d = render e := by
  have htable : ∀ r, table d r = table e r := by
    intro r
    simp only [table, Value.display_eq_of_same (Document.same_value h _)]
  unfold render
  rw [populated?_eq_of_same h]
  simp only [htable]

end Markdown

end Spreadsheet
