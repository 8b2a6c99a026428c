import Spreadsheet.Grid
import Spreadsheet.Proofs.Map

/-!
# Dense grids

A grid is a matrix: the place of a position among the values lies in range (`index_lt`), no two
positions share a place (`eq_of_index_eq`), and every place belongs to a position
(`exists_index_eq`). So `value` is the only view of a grid (`ext_value`), and of values that are set
one after the other, each position holds the last one that was set there (`value_setAll`).
-/

namespace Spreadsheet.Grid

variable {g h : Grid} {p q : Position} {v : Value}

/-! ## Places -/

theorem index_lt (hp : p.row < g.rows ∧ p.col < g.cols) : g.index p < g.values.size := by
  rw [g.size_eq]
  calc p.row * g.cols + p.col
    _ < p.row * g.cols + g.cols := Nat.add_lt_add_left hp.2 _
    _ = (p.row + 1) * g.cols := (Nat.succ_mul p.row g.cols).symm
    _ ≤ g.rows * g.cols := Nat.mul_le_mul_right g.cols hp.1

theorem index_div (hp : p.col < g.cols) : g.index p / g.cols = p.row := by
  rw [index, Nat.mul_comm, Nat.mul_add_div (Nat.zero_lt_of_lt hp), Nat.div_eq_of_lt hp,
    Nat.add_zero]

theorem index_mod (hp : p.col < g.cols) : g.index p % g.cols = p.col := by
  rw [index, Nat.mul_comm, Nat.mul_add_mod, Nat.mod_eq_of_lt hp]

/-- Two positions of the grid have two places. -/
theorem eq_of_index_eq (hp : p.col < g.cols) (hq : q.col < g.cols) (he : g.index p = g.index q) :
    p = q := by
  have hrow : p.row = q.row := by rw [← index_div hp, he, index_div hq]
  have hcol : p.col = q.col := by rw [← index_mod hp, he, index_mod hq]
  obtain ⟨row, col⟩ := p
  obtain ⟨row', col'⟩ := q
  obtain rfl : row = row' := hrow
  obtain rfl : col = col' := hcol
  rfl

/-- Every place is that of a position of the grid. -/
theorem exists_index_eq {i : Nat} (hi : i < g.values.size) :
    ∃ p : Position, (p.row < g.rows ∧ p.col < g.cols) ∧ g.index p = i := by
  rw [g.size_eq] at hi
  have hc : 0 < g.cols := Nat.pos_of_lt_mul_left hi
  refine ⟨⟨i / g.cols, i % g.cols⟩, ⟨?_, Nat.mod_lt i hc⟩, ?_⟩
  · exact (Nat.div_lt_iff_lt_mul hc).mpr hi
  · exact Nat.div_add_mod' i g.cols

/-! ## Values -/

theorem value_of_inside (hp : p.row < g.rows ∧ p.col < g.cols) :
    g.values[g.index p]? = some (g.value p) := by
  have hi := index_lt hp
  simp only [value, if_pos hp, Array.getD_eq_getD_getElem?, Array.getElem?_eq_getElem hi,
    Option.getD_some]

/-- Grids of one size with the same values are the same grid. -/
theorem ext_value (hr : g.rows = h.rows) (hc : g.cols = h.cols)
    (hv : ∀ p : Position, p.row < g.rows ∧ p.col < g.cols → g.value p = h.value p) : g = h := by
  obtain ⟨rows, cols, values, size_eq⟩ := g
  obtain ⟨rows', cols', values', size_eq'⟩ := h
  obtain rfl : rows = rows' := hr
  obtain rfl : cols = cols' := hc
  congr 1
  refine Array.ext (size_eq.trans size_eq'.symm) fun i hi hi' => ?_
  obtain ⟨p, hp, rfl⟩ := exists_index_eq (g := ⟨rows, cols, values, size_eq⟩) hi
  have hg := value_of_inside (g := ⟨rows, cols, values, size_eq⟩) hp
  have hh := value_of_inside (g := ⟨rows, cols, values', size_eq'⟩) hp
  rw [← hv p hp] at hh
  exact (Array.getElem_eq_iff.mpr hg).trans (Array.getElem_eq_iff.mpr hh).symm

theorem value_blank (rows cols : Nat) (p : Position) : (blank rows cols).value p = .empty := by
  simp only [value, blank, Array.getD_eq_getD_getElem?, Array.getElem?_replicate]
  have hg : ∀ i, (if i < rows * cols then some Value.empty else none).getD .empty = .empty := by
    intro i
    split <;> rfl
  rw [hg, ite_self]

/-! ## Setting values -/

@[simp] theorem rows_set (g : Grid) (p : Position) (v : Value) : (g.set p v).rows = g.rows := by
  unfold set
  split <;> rfl

@[simp] theorem cols_set (g : Grid) (p : Position) (v : Value) : (g.set p v).cols = g.cols := by
  unfold set
  split <;> rfl

/-- Setting a value changes no other position. -/
theorem value_set (hq : q.row < g.rows ∧ q.col < g.cols) :
    (g.set p v).value q = if p = q then v else g.value q := by
  by_cases hp : p.row < g.rows ∧ p.col < g.cols
  · simp only [set, if_pos hp, value, if_pos hq, index, Array.getD_eq_getD_getElem?,
      Array.getElem?_setIfInBounds]
    by_cases he : p = q
    · subst he
      have hi := index_lt hp
      unfold index at hi
      simp [hi]
    · have hne : ¬ g.index p = g.index q := fun hi => he (eq_of_index_eq hp.2 hq.2 hi)
      unfold index at hne
      simp [he, hne]
  · have he : p ≠ q := fun he => hp (he ▸ hq)
    rw [set, if_neg hp, if_neg he]

/-- The grid with some values set, one after the other. -/
def setAll (g : Grid) (sets : List (Position × Value)) : Grid :=
  sets.foldl (fun g e => g.set e.1 e.2) g

@[simp] theorem rows_setAll (g : Grid) (sets : List (Position × Value)) :
    (g.setAll sets).rows = g.rows := by
  induction sets generalizing g with
  | nil => rfl
  | cons e sets ih => exact (ih (g.set e.1 e.2)).trans (rows_set g e.1 e.2)

@[simp] theorem cols_setAll (g : Grid) (sets : List (Position × Value)) :
    (g.setAll sets).cols = g.cols := by
  induction sets generalizing g with
  | nil => rfl
  | cons e sets ih => exact (ih (g.set e.1 e.2)).trans (cols_set g e.1 e.2)

/-- A position holds the last value that was set there, or what it held before. -/
theorem value_setAll (sets : List (Position × Value)) (hp : p.row < g.rows ∧ p.col < g.cols) :
    (g.setAll sets).value p = (lastOf p sets).getD (g.value p) := by
  induction sets generalizing g with
  | nil => rfl
  | cons e sets ih =>
    have hs : p.row < (g.set e.1 e.2).rows ∧ p.col < (g.set e.1 e.2).cols := by
      rwa [rows_set, cols_set]
    -- What is set later is set on the grid with this value, which counts if there is no later one.
    change ((g.set e.1 e.2).setAll sets).value p = _
    rw [ih hs, value_set hp, lastOf]
    cases lastOf p sets with
    | none => split <;> rfl
    | some x => rfl

end Spreadsheet.Grid
