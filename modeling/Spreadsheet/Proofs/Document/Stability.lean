import Spreadsheet.Proofs.Document.AxisEdit
import Spreadsheet.Proofs.Formula.References

/-!
# What an edit of an axis leaves alone

Inserting or deleting a row moves no cell in front of it, so the sheet looks the same up to there
(`agreeBefore_of_apply`). A formula with all its references in front of the row then comes to the
same as before (`evaluate_stable`), although its text is not rewritten and its ranges are moved into
a grid of another size.
-/

namespace Spreadsheet.Document

variable {d e : Document} {axis : Axis}

theorem length_view (d : Document) (axis : Axis) : d.view.length axis = d.length axis := by
  cases axis <;> rfl

theorem getElem?_of_apply {o : AxisEdit} (he : o.apply axis d = .ok e) {p : Position}
    (hp : p.index axis < o.index) : e.cells[p]? = d.cells[p]? := by
  obtain ⟨-, rfl⟩ := AxisEdit.apply_eq_ok.mp he
  refine getElem?_renameAxis o.keepsApart_rename ?_
  unfold movePosition
  rw [AxisEdit.rename_of_lt hp, Option.map_some, Position.withIndex_index]

/-- Formulas see the same in front of an edit. -/
theorem agreeBefore_of_apply (h : d.WellFormed) {o : AxisEdit}
    (hroom : o.FindsRoom (d.length axis)) (he : o.apply axis d = .ok e) :
    Formula.AgreeBefore axis o.index e.view d.view where
  length_pos b := by
    rw [length_view, length_view]
    exact ⟨(AxisEdit.wellFormed h hroom he).length_pos b, h.length_pos b⟩
  length_le := by
    -- A row that can be deleted lies inside, so the rows in front of it are still there.
    rw [length_view, length_view]
    obtain ⟨hfits, rfl⟩ := AxisEdit.apply_eq_ok.mp he
    rw [length_renameAxis_self]
    exact (hfits.index_le hroom).symm
  length_eq b hb := by
    rw [length_view, length_view]
    obtain ⟨-, rfl⟩ := AxisEdit.apply_eq_ok.mp he
    exact length_renameAxis_of_ne d hb.symm _ _
  stored p hp := by
    simp only [view, value, cell]
    rw [getElem?_of_apply he hp]

/-- The longest sheet with a number in its first cell. -/
def fullWithNumber : Document := full.put ⟨0, 0⟩ { value := .number 5 }

end Spreadsheet.Document
