import Spreadsheet.Proofs.Document.Finite

/-!
# What snapshots encode

The JSON that is written for a value, a format, a cell or a snapshot encodes it, as long as its
numbers are finite (`Snapshot.encodes_toJson`).
-/

namespace Spreadsheet

open Json

/-! ## Values -/

theorem Value.encodes_toJson {v : Value} (h : v.IsFinite) : Encodes v.toJson Value.ofJson? v := by
  cases v with
  | empty => exact ⟨.null, rfl⟩
  | number x =>
    have hx : x.isFinite := h
    obtain ⟨hp, hr⟩ := encodes_float hx
    refine ⟨hp, ?_⟩
    rw [ofFloat, if_pos hx] at hr
    rw [Value.toJson, ofFloat, if_pos hx, Value.ofJson?, hr, Option.map_some]
  | text s =>
    obtain ⟨hp, hr⟩ := encodes_text s
    refine ⟨hp, ?_⟩
    rw [ofText] at hr
    rw [Value.toJson, ofText, Value.ofJson?, hr, Option.map_some]

/-! ## Formats -/

/-- The fields of a format. -/
def Format.fields (f : Format) : List (String × Option Json) :=
  [("bold", f.bold.map .bool), ("italic", f.italic.map .bool), ("color", f.color.map ofText),
    ("bgColor", f.background.map ofText), ("fontSize", f.fontSize.map ofFloat)]

theorem Format.toJson_eq (f : Format) : f.toJson = record f.fields := by
  obtain ⟨_ | bold, _ | italic, _ | color, _ | background, _ | fontSize⟩ := f <;> rfl

theorem Format.encodes_toJson {f : Format} (h : f.IsFinite) :
    Encodes f.toJson Format.ofJson? f := by
  have hn : RecordNames (f.fields.map (·.1)) := by
    change RecordNames ["bold", "italic", "color", "bgColor", "fontSize"]
    decide +kernel
  obtain ⟨hp₁, hr₁⟩ := @fieldEncodes_optional _ Json.bool bool? f.bold rfl fun b _ => encodes_bool b
  obtain ⟨hp₂, hr₂⟩ :=
    @fieldEncodes_optional _ Json.bool bool? f.italic rfl fun b _ => encodes_bool b
  obtain ⟨hp₃, hr₃⟩ := @fieldEncodes_optional _ ofText text? f.color rfl fun s _ => encodes_text s
  obtain ⟨hp₄, hr₄⟩ :=
    @fieldEncodes_optional _ ofText text? f.background rfl fun s _ => encodes_text s
  obtain ⟨hp₅, hr₅⟩ :=
    @fieldEncodes_optional _ ofFloat float? f.fontSize rfl fun x hx => encodes_float (h x hx)
  have hf := fields?_record hn
  rw [Format.toJson_eq]
  constructor
  · refine proper_record hn ?_
    simp only [Format.fields, List.forall_mem_cons]
    exact ⟨hp₁, hp₂, hp₃, hp₄, hp₅, nofun⟩
  · simp only [Format.fields, List.map_cons, List.map_nil] at hf
    simp only [Format.ofJson?, Format.fields, hf, Option.bind_eq_bind, Option.bind_some, hr₁, hr₂,
      hr₃, hr₄, hr₅, Option.pure_def]

/-! ## Cells -/

/-- The fields of a cell. -/
def Cell.fields (c : Cell) : List (String × Option Json) :=
  [("value", some c.value.toJson), ("formula", c.formula.map ofText),
    ("format", c.format.map Format.toJson)]

theorem Cell.toJson_eq (c : Cell) : c.toJson = record c.fields := by
  obtain ⟨value, _ | formula, _ | format⟩ := c <;> rfl

theorem Cell.encodes_toJson {c : Cell} (h : c.IsFinite) : Encodes c.toJson Cell.ofJson? c := by
  have hn : RecordNames (c.fields.map (·.1)) := by
    change RecordNames ["value", "formula", "format"]
    decide +kernel
  obtain ⟨hp₁, hr₁⟩ := @fieldEncodes_withUsual _ Value.toJson Value.ofJson? c.value .empty
    (Value.encodes_toJson h.value)
  obtain ⟨hp₂, hr₂⟩ := @fieldEncodes_optional _ ofText text? c.formula rfl fun s _ => encodes_text s
  obtain ⟨hp₃, hr₃⟩ := @fieldEncodes_optional _ Format.toJson Format.ofJson? c.format rfl
    fun f hf => Format.encodes_toJson (h.format f hf)
  have hf := fields?_record hn
  rw [Cell.toJson_eq]
  constructor
  · refine proper_record hn ?_
    simp only [Cell.fields, List.forall_mem_cons]
    exact ⟨hp₁, hp₂, hp₃, nofun⟩
  · simp only [Cell.fields, List.map_cons, List.map_nil] at hf
    simp only [Cell.ofJson?, Cell.fields, hf, Option.bind_eq_bind, Option.bind_some, hr₁, hr₂, hr₃,
      Option.pure_def]

/-! ## Snapshots -/

namespace Snapshot

theorem encodes_sizesToJson {sizes : Sizes}
    (hi : ∀ {i : Nat} {x : Float}, sizes[i]? = some x → i ≤ Numeric.maxIndex)
    (hx : ∀ {i : Nat} {x : Float}, sizes[i]? = some x → x.isFinite) :
    Encodes (sizesToJson sizes) (map? indexKey? float?) sizes :=
  encodes_map (fun i _ h => ⟨indexKey?_digitChars (hi h), _, (escape_digitChars i).symm⟩)
    fun _ _ h => encodes_float (hx h)

theorem encodes_cells {cells : Std.ExtTreeMap String Cell}
    (h : ∀ {k : String} {c : Cell}, cells[k]? = some c → c.IsFinite) :
    Encodes (.object (cells.toList.map fun (key, c) => (escape key.toList, c.toJson)))
      (map? textKey? Cell.ofJson?) cells := by
  refine encodes_map (fun k _ _ => ⟨?_, _, rfl⟩) fun _ _ hc => Cell.encodes_toJson (h hc)
  rw [textKey?, unescape?_escape, Option.map_some, String.ofList_toList]

/-- Whether rows, columns and the indices of sizes are small enough to be read back. -/
structure Indexed (s : Snapshot) : Prop where
  rows : s.rows ≤ Numeric.maxIndex
  cols : s.cols ≤ Numeric.maxIndex
  widths : ∀ {i : Nat} {x : Float}, s.widths[i]? = some x → i ≤ Numeric.maxIndex
  heights : ∀ {i : Nat} {x : Float}, s.heights[i]? = some x → i ≤ Numeric.maxIndex

/-- The fields of a snapshot. -/
def fields (s : Snapshot) : List (String × Option Json) :=
  [("cells", some (.object (s.cells.toList.map fun (key, c) => (escape key.toList, c.toJson)))),
    ("columnWidths", some (sizesToJson s.widths)), ("rowHeights", some (sizesToJson s.heights)),
    ("numRows", some (.ofIndex s.rows)), ("numCols", some (.ofIndex s.cols))]

theorem encodes_toJson {s : Snapshot} (h : s.IsFinite) (hs : s.Indexed) :
    Encodes s.toJson ofJson? s := by
  have hn : RecordNames (s.fields.map (·.1)) := by
    change RecordNames ["cells", "columnWidths", "rowHeights", "numRows", "numCols"]
    decide +kernel
  have hcells := encodes_cells h.cells
  have hwidths := encodes_sizesToJson hs.widths h.widths
  have hheights := encodes_sizesToJson hs.heights h.heights
  have hrows := encodes_index hs.rows
  have hcols := encodes_index hs.cols
  have hf := fields?_record hn
  have he : s.toJson = record s.fields := rfl
  rw [he]
  constructor
  · refine proper_record hn ?_
    simp only [fields, List.forall_mem_cons, Option.mem_def, Option.some.injEq, forall_eq']
    exact ⟨hcells.proper, hwidths.proper, hheights.proper, hrows.proper, hcols.proper, nofun⟩
  · simp only [fields, List.map_cons, List.map_nil] at hf
    simp only [ofJson?, fields, hf, Option.bind_eq_bind, Option.bind_some, withUsual?,
      hcells.read_eq, hwidths.read_eq, hheights.read_eq, hrows.read_eq, hcols.read_eq,
      Option.pure_def]

end Snapshot

end Spreadsheet
