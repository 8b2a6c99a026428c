import Spreadsheet.Address.Axis
import Spreadsheet.Address.Rectangle

/-!
# Blocks of rectangles

The rows of `Rectangle.block` are made from the positions of the rectangle, and from no others. The
first corner of a rectangle is meant to stand before its last one on both axes. Then what it
contains, the list of its positions and its block agree (`views_agree`).
-/

namespace Spreadsheet

theorem Position.order_eq_lt_iff {p q : Position} :
    p.order q = .lt ↔ p.row < q.row ∨ p.row = q.row ∧ p.col < q.col := by
  simp only [order, compareLex, compareOn, Ordering.then_eq_lt, Nat.compare_eq_lt,
    Nat.compare_eq_eq]

namespace Rectangle

variable {α : Type} {r : Rectangle} {p : Position}

theorem row_offset_lt (hp : r.Contains p) : p.row - r.first.row < r.height := by
  obtain ⟨⟨hfirst, hlast⟩, -⟩ := hp
  unfold height
  omega

theorem col_offset_lt (hp : r.Contains p) : p.col - r.first.col < r.width := by
  obtain ⟨-, hfirst, hlast⟩ := hp
  unfold width
  omega

theorem contains_offset (r : Rectangle) (hr : ∀ axis, r.first.index axis ≤ r.last.index axis)
    {i j : Nat} (hi : i < r.height) (hj : j < r.width) :
    r.Contains ⟨r.first.row + i, r.first.col + j⟩ := by
  have hrow := hr .row
  have hcol := hr .column
  simp only [Position.index] at hrow hcol
  unfold height at hi
  unfold width at hj
  refine ⟨⟨?_, ?_⟩, ?_, ?_⟩ <;> simp only <;> omega

/-- A row of the rectangle with `f` applied to every position. -/
def line (r : Rectangle) (f : Position → α) (row : Nat) : List α :=
  (List.range r.width).map fun j => f ⟨row, r.first.col + j⟩

theorem block_eq_map_line (r : Rectangle) (f : Position → α) :
    r.block f = (List.range r.height).map fun i => r.line f (r.first.row + i) :=
  rfl

theorem getElem?_line (hp : r.Contains p) (f : Position → α) (row : Nat) :
    (r.line f row)[p.col - r.first.col]? = some (f ⟨row, p.col⟩) := by
  rw [line, List.getElem?_map, List.getElem?_range (col_offset_lt hp), Option.map_some,
    Nat.add_sub_cancel' hp.2.1]

theorem getElem?_block {i : Nat} (hi : i < r.height) (f : Position → α) :
    (r.block f)[i]? = some (r.line f (r.first.row + i)) := by
  rw [block_eq_map_line, List.getElem?_map, List.getElem?_range hi, Option.map_some]

theorem length_block (r : Rectangle) (f : Position → α) : (r.block f).length = r.height := by
  simp [block]

theorem mem_block {r : Rectangle} {f : Position → α} {row : List α} (h : row ∈ r.block f) :
    ∃ i, i < r.height ∧
      row = (List.range r.width).map fun j => f ⟨r.first.row + i, r.first.col + j⟩ := by
  obtain ⟨i, hi, rfl⟩ := List.mem_map.mp h
  exact ⟨i, List.mem_range.mp hi, rfl⟩

/-- A block depends on the positions of the rectangle alone. -/
theorem block_congr {r : Rectangle} {f g : Position → α}
    (hr : ∀ axis, r.first.index axis ≤ r.last.index axis)
    (h : ∀ p, r.Contains p → f p = g p) : r.block f = r.block g := by
  unfold block
  refine List.map_congr_left fun i hi => List.map_congr_left fun j hj => h _ ?_
  exact r.contains_offset hr (List.mem_range.mp hi) (List.mem_range.mp hj)

theorem map_block {β : Type} (r : Rectangle) (f : Position → α) (g : α → β) :
    (r.block f).map (·.map g) = r.block fun p => g (f p) := by
  simp only [block, List.map_map, Function.comp_def]

theorem zip_block {β : Type} (r : Rectangle) (f : Position → α) (g : Position → β) :
    List.zipWith List.zip (r.block f) (r.block g) = r.block fun p => (f p, g p) := by
  simp only [block, List.zipWith_map, List.zipWith_self, List.zip_map']

theorem mem_flatten_block (hr : ∀ axis, r.first.index axis ≤ r.last.index axis)
    {f : Position → α} {x : α} : x ∈ (r.block f).flatten ↔ ∃ p, r.Contains p ∧ f p = x := by
  rw [List.mem_flatten]
  constructor
  · rintro ⟨row, hrow, hx⟩
    obtain ⟨i, hi, rfl⟩ := mem_block hrow
    obtain ⟨j, hj, rfl⟩ := List.mem_map.mp hx
    exact ⟨_, r.contains_offset hr hi (List.mem_range.mp hj), rfl⟩
  · rintro ⟨p, hp, rfl⟩
    refine ⟨_, List.mem_of_getElem? (getElem?_block (row_offset_lt hp) f), ?_⟩
    rw [Nat.add_sub_cancel' hp.1.1]
    exact List.mem_of_getElem? (getElem?_line hp f p.row)

/-! ## Positions row by row -/

/-- The entries of a table, row by row: the index of an entry is divided by the width. -/
theorem flatten_map_range {n : Nat} (hn : 0 < n) (m : Nat) (f : Nat → Nat → α) :
    ((List.range m).map fun i => (List.range n).map (f i)).flatten =
      (List.range (m * n)).map fun k => f (k / n) (k % n) := by
  induction m with
  | zero => simp
  | succ m ih =>
    have hlast : (List.range n).map (f m) =
        (List.range n).map fun j => f ((m * n + j) / n) ((m * n + j) % n) := by
      refine List.map_congr_left fun j hj => ?_
      have hj := List.mem_range.mp hj
      rw [Nat.mul_comm m n, Nat.mul_add_div hn, Nat.div_eq_of_lt hj, Nat.mul_add_mod,
        Nat.mod_eq_of_lt hj, Nat.add_zero]
    rw [List.range_succ, List.map_append, List.flatten_append, ih, Nat.succ_mul, List.range_add,
      List.map_append, List.map_map, List.map_singleton, List.flatten_singleton, hlast]
    rfl

/-- Row by row, a block has the values at the positions of the rectangle. -/
theorem flatten_block (r : Rectangle) (f : Position → α) :
    (r.block f).flatten = r.positions.map f := by
  have hc : 0 < r.width := Nat.succ_pos _
  rw [block, flatten_map_range hc, positions, firstPositions, Nat.min_self, List.map_map]
  rfl

theorem mem_positions_iff (hr : ∀ axis, r.first.index axis ≤ r.last.index axis) :
    p ∈ r.positions ↔ r.Contains p := by
  rw [← List.map_id r.positions, ← flatten_block, mem_flatten_block hr]
  simp

theorem length_positions (r : Rectangle) : r.positions.length = r.height * r.width := by
  rw [positions, firstPositions, List.length_map, List.length_range, Nat.min_self]

/-- The first positions are a start of all positions. -/
theorem firstPositions_eq_take (r : Rectangle) (count : Nat) :
    r.firstPositions count = r.positions.take count := by
  rw [positions, firstPositions, firstPositions, ← List.map_take, List.take_range, Nat.min_self]

theorem order_positionAt {i j : Nat} (h : i < j) :
    Position.order (r.positionAt i) (r.positionAt j) = .lt := by
  rw [Position.order_eq_lt_iff]
  simp only [positionAt]
  have hrows := Nat.div_le_div_right (c := r.width) (Nat.le_of_lt h)
  rcases Nat.lt_or_eq_of_le hrows with hrow | hrow
  · exact .inl (Nat.add_lt_add_left hrow _)
  · -- In one row, the columns are ordered as the indices are.
    have hi := Nat.div_add_mod i r.width
    have hj := Nat.div_add_mod j r.width
    rw [hrow] at hi
    exact .inr ⟨congrArg _ hrow, by omega⟩

theorem pairwise_positions (r : Rectangle) :
    r.positions.Pairwise fun p q => Position.order p q = .lt :=
  List.pairwise_map.mpr (List.pairwise_lt_range.imp order_positionAt)

theorem nodup_positions (r : Rectangle) : r.positions.Nodup := by
  refine r.pairwise_positions.imp fun {p q} h => ?_
  have hself : Position.order p p = .eq := Std.ReflCmp.compare_self
  rintro rfl
  rw [hself] at h
  cases h

/-! ## Counts -/

theorem rowCount_of_lt (h : r.last.row - r.first.row < Numeric.maxIndex) :
    r.rowCount = r.height :=
  Numeric.wrapIndex_of_le h

theorem colCount_of_lt (h : r.last.col - r.first.col < Numeric.maxIndex) :
    r.colCount = r.width :=
  Numeric.wrapIndex_of_le h

theorem rowCount_of_all (h : r.last.row - r.first.row = Numeric.maxIndex) : r.rowCount = 0 := by
  rw [rowCount, height, h, Numeric.wrapIndex_succ_maxIndex]

theorem colCount_of_all (h : r.last.col - r.first.col = Numeric.maxIndex) : r.colCount = 0 := by
  rw [colCount, width, h, Numeric.wrapIndex_succ_maxIndex]

theorem length_of_mem_block {f : Position → α} {row : List α} (h : row ∈ r.block f) :
    row.length = r.width := by
  obtain ⟨i, -, rfl⟩ := mem_block h
  rw [List.length_map, List.length_range]

end Rectangle

end Spreadsheet
