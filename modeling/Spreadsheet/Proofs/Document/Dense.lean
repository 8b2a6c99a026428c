import Spreadsheet.Proofs.Document.Run
import Spreadsheet.Proofs.Document.WellFormed
import Spreadsheet.Proofs.Formula.Reads
import Spreadsheet.Proofs.Grid

/-!
# Documents as dense grids

The dense grid of a document has the size of the sheet and its values (`value_toGrid`), and the
order in which the stored cells are copied makes no difference (`copy_eq_toGrid`), since no two of
them are stored at one position. A formula cannot tell the sheet from its grid
(`toGrid_interchangeable`).
-/

namespace Spreadsheet.Document

variable {d : Document} {p : Position}

/-- The values of some cells, copied one after the other into a grid of the size of the sheet. -/
def copy (d : Document) (entries : List (Position × Cell)) : Grid :=
  (Grid.blank d.rows d.cols).setAll (entries.map fun e => (e.1, e.2.value))

theorem toGrid_eq_copy (d : Document) : d.toGrid = d.copy d.cells.toList := by
  unfold toGrid copy Grid.setAll
  rw [Std.ExtTreeMap.foldl_eq_foldl_toList, List.foldl_map]

theorem rows_copy (d : Document) (entries : List (Position × Cell)) :
    (d.copy entries).rows = d.rows :=
  Grid.rows_setAll _ _

theorem cols_copy (d : Document) (entries : List (Position × Cell)) :
    (d.copy entries).cols = d.cols :=
  Grid.cols_setAll _ _

/-- Copied in any order, the stored cells make a grid with the values of the sheet. -/
theorem value_copy {entries : List (Position × Cell)} (h : entries.Perm d.cells.toList)
    (hp : d.Inside p) : (d.copy entries).value p = d.value p := by
  have hg : p.row < (Grid.blank d.rows d.cols).rows ∧ p.col < (Grid.blank d.rows d.cols).cols :=
    inside_iff.mp hp
  have hl : lastOf p entries = d.cells[p]? := lastOf_eq_getElem? fun _ => h.mem_iff
  rw [copy, Grid.value_setAll _ hg, Grid.value_blank, lastOf_map, hl]
  simp only [value, cell]
  cases d.cells[p]? <;> rfl

theorem value_toGrid (hp : d.Inside p) : d.toGrid.value p = d.value p := by
  rw [toGrid_eq_copy]
  exact value_copy (.refl _) hp

theorem copy_eq_toGrid {entries : List (Position × Cell)} (h : entries.Perm d.cells.toList) :
    d.copy entries = d.toGrid := by
  rw [toGrid_eq_copy]
  refine Grid.ext_value ?_ ?_ fun p hp => ?_
  · rw [rows_copy, rows_copy]
  · rw [cols_copy, cols_copy]
  · rw [rows_copy, cols_copy] at hp
    rw [value_copy h (inside_iff.mpr hp), value_copy (.refl _) (inside_iff.mpr hp)]

/-- A sheet and its grid agree everywhere, outside as well. -/
theorem agreeOn_toGrid (d : Document) (P : Position → Prop) :
    Formula.AgreeOn P d.toGrid.view d.view := by
  have hr : d.toGrid.rows = d.rows := by rw [toGrid_eq_copy, rows_copy]
  have hc : d.toGrid.cols = d.cols := by rw [toGrid_eq_copy, cols_copy]
  refine .of_inside hr hc fun p hp _ => ?_
  have hi : p.row < d.rows ∧ p.col < d.cols := by
    rw [← hr, ← hc]
    exact hp
  have hv : d.view.Contains p := hi
  rw [View.value, View.value, if_pos hp, if_pos hv]
  exact value_toGrid (inside_iff.mpr hi)

/-- The grid of a sheet has its size and its values, in whatever order the cells are copied, and
formulas come to the same on the grid as on the sheet. -/
theorem toGrid_interchangeable (d : Document) :
    (d.toGrid.rows = d.rows ∧ d.toGrid.cols = d.cols) ∧
    (∀ p, d.Inside p → d.toGrid.value p = d.value p) ∧
    (∀ entries, entries.Perm d.cells.toList → d.copy entries = d.toGrid) ∧
    ∀ formula anchor,
      Formula.evaluate formula d.toGrid.view anchor = Formula.evaluate formula d.view anchor ∧
        Formula.evaluate? formula d.toGrid.view anchor =
          Formula.evaluate? formula d.view anchor :=
  ⟨⟨(d.agreeOn_toGrid fun _ => False).rows, (d.agreeOn_toGrid fun _ => False).cols⟩,
    fun _ hp => value_toGrid hp, fun _ h => copy_eq_toGrid h, fun _ _ =>
    ⟨Formula.evaluate_eq_of_reads (d.agreeOn_toGrid _),
      Formula.evaluate?_eq_of_reads (d.agreeOn_toGrid _)⟩⟩

/-- Two prices with their sum in the last column, and a cell that was cleared again. -/
def prices : Document :=
  (empty 2 3).run [.setInput ⟨1, 1⟩ "4", .setInput ⟨0, 0⟩ "2", .setInput ⟨1, 0⟩ "x",
    .clearCell ⟨1, 0⟩, .setInput ⟨1, 2⟩ "=A1+B2"]

theorem toGrid_interchangeable_of_prices :
    prices.copy prices.cells.toList.reverse = prices.toGrid ∧
      prices.toGrid.value ⟨1, 2⟩ = .number 6 ∧
      Formula.evaluate? "=SUM(A1:C2, Z9)" prices.toGrid.view .origin = .ok (.number 12) := by
  obtain ⟨-, hvalue, hcopy, hformula⟩ := toGrid_interchangeable prices
  have hinside : prices.Inside ⟨1, 2⟩ := inside_iff.mpr (by decide +kernel)
  refine ⟨hcopy _ (List.reverse_perm _), ?_, ?_⟩
  · rw [hvalue _ hinside]
    decide +kernel
  · rw [(hformula _ _).2]
    decide +kernel

end Spreadsheet.Document
