import Spreadsheet.Proofs.Document.WellFormed

/-!
# Sheets of one shape

Edits of cells leave the shape of a sheet alone: how many rows and columns there are and what sizes
were set for them. A well-formed sheet stores the cells that are not blank and no others
(`WellFormed.getElem?_eq`), so that its shape and its cells, blank ones included, are all there is to
know of it (`SameShape.eq_of_cell`).
-/

namespace Spreadsheet

/-- A cell that holds nothing is the one that is not stored. -/
theorem Cell.eq_default_of_isBlank {c : Cell} (h : c.isBlank) : c = {} := by
  obtain ⟨value, formula, format⟩ := c
  simp only [isBlank, Bool.and_eq_true, Option.isNone_iff_eq_none] at h
  obtain ⟨⟨hv, rfl⟩, rfl⟩ := h
  cases value with
  | empty => rfl
  | number x => cases hv
  | text s => cases hv

namespace Document

variable {d e f : Document} {p q : Position}

/-- Sheets with as many rows and columns, of the same sizes. -/
structure SameShape (d e : Document) : Prop where
  rows : e.rows = d.rows
  cols : e.cols = d.cols
  widths : e.widths = d.widths
  heights : e.heights = d.heights

namespace SameShape

theorem refl (d : Document) : SameShape d d := ⟨rfl, rfl, rfl, rfl⟩

theorem withCells (d : Document) (cells : Cells) : SameShape d { d with cells } :=
  ⟨rfl, rfl, rfl, rfl⟩

theorem trans (hd : SameShape d e) (he : SameShape e f) : SameShape d f :=
  ⟨he.rows.trans hd.rows, he.cols.trans hd.cols, he.widths.trans hd.widths,
    he.heights.trans hd.heights⟩

theorem symm (h : SameShape d e) : SameShape e d :=
  ⟨h.rows.symm, h.cols.symm, h.widths.symm, h.heights.symm⟩

theorem inside_iff (h : SameShape d e) : e.Inside p ↔ d.Inside p := by
  rw [Document.inside_iff, Document.inside_iff, h.rows, h.cols]

theorem rectangle_eq (h : SameShape d e) (range : String) :
    e.rectangle range = d.rectangle range := by
  unfold rectangle
  rw [h.rows, h.cols]

theorem eq_of_getElem? (h : SameShape d e)
    (hcells : ∀ p : Position, e.cells[p]? = d.cells[p]?) : e = d := by
  obtain ⟨rows, cols, cells, widths, heights⟩ := d
  obtain ⟨rows', cols', cells', widths', heights'⟩ := e
  obtain rfl : rows' = rows := h.rows
  obtain rfl : cols' = cols := h.cols
  obtain rfl : widths' = widths := h.widths
  obtain rfl : heights' = heights := h.heights
  obtain rfl : cells' = cells := Std.ExtTreeMap.ext_getElem? fun p => hcells p
  rfl

end SameShape

/-! ## Cells -/

theorem cell_congr (h : e.cells[q]? = d.cells[p]?) : e.cell q = d.cell p := by
  rw [cell, cell, h]

theorem cell_put_self (d : Document) (p : Position) (c : Cell) : (d.put p c).cell p = c := by
  have hput : (d.put p c).cells[p]? = if c.isBlank then none else some c :=
    (getElem?_putCell d.cells p p c).trans (if_pos rfl)
  unfold cell
  rw [hput]
  split
  · rename_i hb
    exact (Cell.eq_default_of_isBlank hb).symm
  · rfl

theorem getElem?_put_of_ne (h : q ≠ p) (d : Document) (c : Cell) :
    (d.put p c).cells[q]? = d.cells[q]? :=
  (getElem?_putCell d.cells p q c).trans (if_neg h.symm)

theorem put_put (d : Document) (p : Position) (b c : Cell) : (d.put p b).put p c = d.put p c := by
  have hcells : putCell (putCell d.cells p b) p c = putCell d.cells p c := by
    refine Std.ExtTreeMap.ext_getElem? fun q => ?_
    rw [getElem?_putCell, getElem?_putCell, getElem?_putCell]
    by_cases hq : p = q
    · rw [if_pos hq, if_pos hq]
    · rw [if_neg hq, if_neg hq, if_neg hq]
  exact congrArg (fun cells => { d with cells }) hcells

theorem cell_put (d : Document) (p q : Position) (c : Cell) :
    (d.put p c).cell q = if p = q then c else d.cell q := by
  by_cases h : p = q
  · subst h
    rw [if_pos rfl, cell_put_self]
  · rw [if_neg h]
    exact cell_congr (getElem?_put_of_ne (Ne.symm h) d c)

namespace WellFormed

theorem getElem?_eq (h : d.WellFormed) (p : Position) :
    d.cells[p]? = if (d.cell p).isBlank then none else some (d.cell p) := by
  unfold cell
  cases hc : d.cells[p]? with
  | none => rfl
  | some c => exact (if_neg (Bool.eq_false_iff.mp (h.notBlank hc))).symm

theorem mem_iff (h : d.WellFormed) (p : Position) : p ∈ d.cells ↔ (d.cell p).isBlank = false := by
  rw [← Std.ExtTreeMap.isSome_getElem?_iff_mem, h.getElem?_eq]
  cases (d.cell p).isBlank <;> simp

end WellFormed

theorem SameShape.eq_of_cell (h : SameShape d e) (hd : d.WellFormed) (he : e.WellFormed)
    (hcell : ∀ p, e.cell p = d.cell p) : e = d := by
  refine h.eq_of_getElem? fun p => ?_
  rw [hd.getElem?_eq, he.getElem?_eq, hcell]

end Document

end Spreadsheet
