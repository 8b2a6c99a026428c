import Spreadsheet.Proofs.Address.Rectangle
import Spreadsheet.Proofs.Grid

/-!
# Grids and their rows

A grid that is made of rows is as wide as the longest of them and holds their values, with nothing
where a row is short (`cols_ofRows`, `value_ofRows`). What a grid shows are its values row by row
(`toRows_eq`).

Values are written and read at places that are worked out from positions. The checked forms
`ofRows?`, `setAll?` and `value?` come to nothing if such a place is no index, or if there is no
such place among the values. For a grid that can be made, one with no more values than an index can
count, they always come to something, and to what the unchecked forms come to.
-/

namespace Spreadsheet.Grid

variable {g : Grid} {p : Position} {v : Value} {rows : List (List Value)}

/-! ## Rows as values at positions -/

/-- The values of a row from a column on, with their positions. -/
def rowEntries (row col : Nat) (vs : List Value) : List (Position × Value) :=
  (vs.zipIdx col).map fun e => (⟨row, e.2⟩, e.1)

/-- The values of rows from a row on, with their positions. -/
def entries (row : Nat) (rows : List (List Value)) : List (Position × Value) :=
  (rows.zipIdx row).flatMap fun e => rowEntries e.2 0 e.1

theorem mem_entries_iff :
    (p, v) ∈ entries 0 rows ↔ rows[p.row]?.bind (·[p.col]?) = some v := by
  simp only [entries, rowEntries, List.mem_flatMap, List.mem_map, Prod.exists,
    List.mem_zipIdx_iff_getElem?, Prod.mk.injEq, Option.bind_eq_some_iff]
  constructor
  · rintro ⟨vs, r, hr, w, c, hc, rfl, rfl⟩
    exact ⟨vs, hr, hc⟩
  · rintro ⟨vs, hr, hc⟩
    exact ⟨vs, p.row, hr, v, p.col, hc, rfl, rfl⟩

theorem lastOf_entries (p : Position) (rows : List (List Value)) :
    lastOf p (entries 0 rows) = rows[p.row]?.bind (·[p.col]?) := by
  refine Option.ext fun v => ?_
  rw [lastOf_eq_some_iff, mem_entries_iff]
  intro w hv hw
  exact Option.some.inj ((mem_entries_iff.mp hv).symm.trans (mem_entries_iff.mp hw))

theorem setAll_append (g : Grid) (sets more : List (Position × Value)) :
    g.setAll (sets ++ more) = (g.setAll sets).setAll more :=
  List.foldl_append

theorem setRow_eq_setAll (g : Grid) (row col : Nat) (vs : List Value) :
    g.setRow row col vs = g.setAll (rowEntries row col vs) := by
  induction vs generalizing g col with
  | nil => rfl
  | cons v vs ih => exact ih (g.set ⟨row, col⟩ v) (col + 1)

theorem setRows_eq_setAll (g : Grid) (row : Nat) (rows : List (List Value)) :
    g.setRows row rows = g.setAll (entries row rows) := by
  induction rows generalizing g row with
  | nil => rfl
  | cons vs rows ih =>
    rw [setRows, ih, setRow_eq_setAll, ← setAll_append]
    rfl

/-! ## Grids made of rows -/

theorem rows_ofRows (rows : List (List Value)) : (ofRows rows).rows = rows.length := by
  rw [ofRows, setRows_eq_setAll, rows_setAll]
  rfl

theorem foldl_max_length (rows : List (List Value)) :
    rows.foldl (fun width row => max width row.length) 0 =
      (rows.map List.length).max?.getD 0 := by
  rw [← List.foldl_map, List.foldl_max, Nat.zero_max]

theorem cols_ofRows (rows : List (List Value)) :
    (ofRows rows).cols = (rows.map List.length).max?.getD 0 := by
  rw [ofRows, setRows_eq_setAll, cols_setAll]
  exact foldl_max_length rows

theorem length_le_cols {row : List Value} (h : row ∈ rows) : row.length ≤ (ofRows rows).cols := by
  rw [cols_ofRows]
  exact List.le_max?_getD_of_mem (List.mem_map_of_mem h)

/-- Every value of the rows has its position inside the grid. -/
theorem inside_of_mem_entries {e : Position × Value} (he : e ∈ entries 0 rows) :
    e.1.row < (ofRows rows).rows ∧ e.1.col < (ofRows rows).cols := by
  obtain ⟨row, hr, hc⟩ := Option.bind_eq_some_iff.mp (mem_entries_iff.mp he)
  have hrow : e.1.row < rows.length := (List.getElem?_eq_some_iff.mp hr).1
  have hcol : e.1.col < row.length := (List.getElem?_eq_some_iff.mp hc).1
  rw [rows_ofRows]
  exact ⟨hrow, Nat.lt_of_lt_of_le hcol (length_le_cols (List.mem_of_getElem? hr))⟩

theorem value_of_outside (hp : ¬ (p.row < g.rows ∧ p.col < g.cols)) : g.value p = .empty :=
  if_neg hp

theorem value_ofRows (rows : List (List Value)) (p : Position) :
    (ofRows rows).value p = (rows[p.row]?.bind (·[p.col]?)).getD .empty := by
  by_cases hp : p.row < (ofRows rows).rows ∧ p.col < (ofRows rows).cols
  · rw [ofRows, setRows_eq_setAll, rows_setAll, cols_setAll] at hp
    rw [ofRows, setRows_eq_setAll, value_setAll _ hp, value_blank, lastOf_entries]
  · rw [value_of_outside hp]
    cases hv : rows[p.row]?.bind (·[p.col]?) with
    | none => rfl
    | some v => exact absurd (inside_of_mem_entries (mem_entries_iff.mpr hv)) hp

/-! ## Sets outside the grid -/

theorem set_of_outside (hp : ¬ (p.row < g.rows ∧ p.col < g.cols)) (v : Value) : g.set p v = g :=
  if_neg hp

theorem setAll_eq_setAll_filter (g : Grid) (sets : List (Position × Value)) :
    g.setAll sets = g.setAll (sets.filter fun e => e.1.row < g.rows ∧ e.1.col < g.cols) := by
  induction sets generalizing g with
  | nil => rfl
  | cons e sets ih =>
    by_cases he : e.1.row < g.rows ∧ e.1.col < g.cols
    · -- The sets that follow are asked for the size after this one, which is the size before it.
      have hs := ih (g.set e.1 e.2)
      rw [rows_set, cols_set] at hs
      rw [List.filter_cons_of_pos (by simpa using he)]
      exact hs
    · have hs : g.setAll (e :: sets) = g.setAll sets :=
        congrArg (setAll · sets) (set_of_outside he e.2)
      rw [List.filter_cons_of_neg (by simpa using he), hs]
      exact ih g

/-! ## Checked places -/

/-- Whether the number of values is an index, so that the grid can be made. -/
def Fits (g : Grid) : Prop := g.rows * g.cols ≤ Numeric.maxIndex

/-- The place of a position, if it is an index. -/
def place? (g : Grid) (p : Position) : Option Nat :=
  if g.index p ≤ Numeric.maxIndex then some (g.index p) else none

/-- The grid with a value written at the place of a position, if there is such a place. -/
def write? (g : Grid) (p : Position) (v : Value) : Option Grid :=
  (g.place? p).bind fun i =>
    if h : i < g.values.size then
      some { g with values := g.values.set i v, size_eq := by simp [g.size_eq] }
    else none

/-- The grid with the given rows, where every value is written at the place of its position without
a look at the size of the grid. -/
def ofRows? (rows : List (List Value)) : Option Grid :=
  (blank? rows.length ((rows.map List.length).max?.getD 0)).bind fun g =>
    (entries 0 rows).foldlM (fun g e => g.write? e.1 e.2) g

/-- Sets the value at a position, written at its place. -/
def set? (g : Grid) (p : Position) (v : Value) : Option Grid :=
  if p.row < g.rows ∧ p.col < g.cols then g.write? p v else some g

/-- The grid with some values set, one after the other. -/
def setAll? (g : Grid) (sets : List (Position × Value)) : Option Grid :=
  sets.foldlM (fun g e => g.set? e.1 e.2) g

/-- The value at a position, read at its place. -/
def value? (g : Grid) (p : Position) : Option Value :=
  if p.row < g.rows ∧ p.col < g.cols then (g.place? p).bind (g.values[·]?) else some .empty

theorem Fits.set (h : g.Fits) (p : Position) (v : Value) : (g.set p v).Fits := by
  rwa [Fits, rows_set, cols_set]

/-- The places of the positions inside are below the number of values. -/
theorem place?_of_inside (h : g.Fits) (hp : p.row < g.rows ∧ p.col < g.cols) :
    g.place? p = some (g.index p) := by
  have hi := index_lt hp
  rw [g.size_eq] at hi
  exact if_pos (Nat.le_of_lt (Nat.lt_of_lt_of_le hi h))

theorem write?_eq (h : g.Fits) (hp : p.row < g.rows ∧ p.col < g.cols) (v : Value) :
    g.write? p v = some (g.set p v) := by
  have hi := index_lt hp
  rw [write?, place?_of_inside h hp, Option.bind_some, dif_pos hi]
  simp only [set, if_pos hp, Array.setIfInBounds, dif_pos hi]

theorem foldlM_write?_eq (hg : g.Fits) (sets : List (Position × Value))
    (h : ∀ e ∈ sets, e.1.row < g.rows ∧ e.1.col < g.cols) :
    sets.foldlM (fun g e => g.write? e.1 e.2) g = some (g.setAll sets) := by
  induction sets generalizing g with
  | nil => rfl
  | cons e sets ih =>
    have hs : ∀ e' ∈ sets, e'.1.row < (g.set e.1 e.2).rows ∧ e'.1.col < (g.set e.1 e.2).cols := by
      intro e' he'
      rw [rows_set, cols_set]
      exact h e' (List.mem_cons_of_mem e he')
    rw [List.foldlM_cons, write?_eq hg (h e List.mem_cons_self)]
    exact ih (hg.set e.1 e.2) hs

theorem ofRows?_eq_some_iff (rows : List (List Value)) :
    ofRows? rows = some (ofRows rows) ↔
      rows.length * (rows.map List.length).max?.getD 0 ≤ Numeric.maxIndex := by
  unfold ofRows? blank?
  split
  · rename_i hfits
    have hblank : (blank rows.length ((rows.map List.length).max?.getD 0)).Fits := hfits
    rw [Option.bind_some, foldlM_write?_eq hblank, ofRows, foldl_max_length, setRows_eq_setAll]
    · exact iff_of_true rfl hfits
    · intro e he
      have hi := inside_of_mem_entries he
      rwa [rows_ofRows, cols_ofRows] at hi
  · rename_i hfits
    exact iff_of_false nofun hfits

theorem set?_eq (h : g.Fits) (p : Position) (v : Value) : g.set? p v = some (g.set p v) := by
  by_cases hp : p.row < g.rows ∧ p.col < g.cols
  · rw [set?, if_pos hp, write?_eq h hp]
  · rw [set?, if_neg hp, set_of_outside hp]

theorem setAll?_eq (h : g.Fits) (sets : List (Position × Value)) :
    g.setAll? sets = some (g.setAll sets) := by
  induction sets generalizing g with
  | nil => rfl
  | cons e sets ih =>
    rw [setAll?, List.foldlM_cons, set?_eq h]
    exact ih (h.set e.1 e.2)

theorem value?_eq (h : g.Fits) (p : Position) : g.value? p = some (g.value p) := by
  by_cases hp : p.row < g.rows ∧ p.col < g.cols
  · rw [value?, if_pos hp, place?_of_inside h hp, Option.bind_some, value_of_inside hp]
  · rw [value?, if_neg hp, value_of_outside hp]

/-! ## Rows that are shown -/

theorem slices_flatten {width : Nat} (hw : 0 < width) (pieces : List (List Value))
    (h : ∀ piece ∈ pieces, piece.length = width) :
    slices width pieces.length pieces.flatten = pieces := by
  induction pieces with
  | nil => rfl
  | cons piece pieces ih =>
    have hl := h piece List.mem_cons_self
    have hne : ¬ (piece ++ pieces.flatten).isEmpty := by
      rw [List.isEmpty_iff, List.append_eq_nil_iff]
      rintro ⟨rfl, -⟩
      exact Nat.ne_of_gt hw hl.symm
    rw [List.flatten_cons, List.length_cons, slices, if_neg hne, List.take_left' hl,
      List.drop_left' hl, ih fun l hl => h l (List.mem_cons_of_mem piece hl)]

/-- The values at the positions of a grid, a line for each row. -/
def lines (g : Grid) : List (List Value) :=
  (List.range g.rows).map fun r => (List.range g.cols).map fun c => g.value ⟨r, c⟩

theorem toList_values (hc : 0 < g.cols) : g.values.toList = g.lines.flatten := by
  rw [lines, Rectangle.flatten_map_range hc]
  refine List.ext_getElem (by simp [g.size_eq]) fun i hi hi' => ?_
  obtain ⟨p, hp, rfl⟩ := exists_index_eq (g := g) hi
  rw [List.getElem_map, List.getElem_range, index_div hp.2, index_mod hp.2,
    Array.getElem_toList]
  exact Array.getElem_eq_iff.mpr (value_of_inside hp)

theorem toRows_eq (hc : 0 < g.cols) : g.toRows = g.lines := by
  have hl : g.lines.length = g.rows := by simp [lines]
  have hw : ∀ line ∈ g.lines, line.length = g.cols := by simp [lines]
  rw [toRows, Nat.max_eq_left hc, toList_values hc, ← hl]
  exact slices_flatten hc g.lines hw

theorem toRows_of_no_columns (hc : g.cols = 0) : g.toRows = [] := by
  have hv : g.values.toList = [] := by
    rw [Array.toList_eq_nil_iff, ← Array.size_eq_zero_iff, g.size_eq, hc, Nat.mul_zero]
  rw [toRows, hv]
  cases g.rows <;> rfl

/-! ## Grids as matrices -/

/-- A grid made of rows has a row for each of them, is as wide as the longest, and holds their
values, with nothing where a row is short. A position holds the value that was last set there, if
any was, and sets outside the grid have no effect. A grid with columns shows its values row by row;
one without shows no rows.

None of this goes to a place that the values do not have, if the number of the values is an index;
and a grid with more values than that cannot be made. -/
theorem holds_rows_and_sets (rows : List (List Value)) (g : Grid)
    (sets : List (Position × Value)) :
    ((ofRows rows).rows = rows.length ∧
      (ofRows rows).cols = (rows.map List.length).max?.getD 0 ∧
      ∀ r c, (ofRows rows).value ⟨r, c⟩ = (rows[r]?.bind (·[c]?)).getD .empty) ∧
    ((g.setAll sets).rows = g.rows ∧ (g.setAll sets).cols = g.cols ∧
      (∀ p : Position, p.row < g.rows ∧ p.col < g.cols →
        (g.setAll sets).value p = (lastOf p sets).getD (g.value p)) ∧
      g.setAll sets = g.setAll (sets.filter fun e => e.1.row < g.rows ∧ e.1.col < g.cols)) ∧
    (ofRows? rows = some (ofRows rows) ↔
      rows.length * (rows.map List.length).max?.getD 0 ≤ Numeric.maxIndex) ∧
    (g.rows * g.cols ≤ Numeric.maxIndex →
      g.setAll? sets = some (g.setAll sets) ∧ ∀ p, g.value? p = some (g.value p)) ∧
    (0 < g.cols → g.toRows = g.lines) ∧ (g.cols = 0 → g.toRows = []) :=
  ⟨⟨rows_ofRows rows, cols_ofRows rows, fun r c => value_ofRows rows ⟨r, c⟩⟩,
    ⟨rows_setAll g sets, cols_setAll g sets, fun _ hp => value_setAll sets hp,
      setAll_eq_setAll_filter g sets⟩,
    ofRows?_eq_some_iff rows, fun h => ⟨setAll?_eq h sets, value?_eq h⟩, toRows_eq,
    toRows_of_no_columns⟩

/-- Two rows, the first of which is short. -/
def ragged : List (List Value) := [[.text "a"], [.text "b", .text "c"]]

/-- A value set twice, with one set below the grid in between. -/
theorem holds_rows_and_sets_of_ragged :
    (0 < (ofRows ragged).rows ∧ 1 < (ofRows ragged).cols ∧
        (ofRows ragged).rows * (ofRows ragged).cols ≤ Numeric.maxIndex) ∧
      ((ofRows ragged).value ⟨0, 1⟩ = .empty ∧ (ofRows ragged).value? ⟨0, 1⟩ = some .empty) ∧
      ((ofRows ragged).setAll
        [(⟨0, 1⟩, .text "d"), (⟨2, 0⟩, .text "e"), (⟨0, 1⟩, .text "f")]).value ⟨0, 1⟩ = .text "f" ∧
      (ofRows ragged).toRows = [[.text "a", .empty], [.text "b", .text "c"]] ∧
      (ofRows [[], []]).toRows = [] := by
  obtain ⟨⟨-, -, hvalue⟩, ⟨-, -, hset, -⟩, -, hchecked, hrows, -⟩ :=
    holds_rows_and_sets ragged (ofRows ragged)
      [(⟨0, 1⟩, .text "d"), (⟨2, 0⟩, .text "e"), (⟨0, 1⟩, .text "f")]
  obtain ⟨-, -, -, -, -, hnone⟩ := holds_rows_and_sets [] (ofRows [[], []]) []
  have hinside : 0 < (ofRows ragged).rows ∧ 1 < (ofRows ragged).cols := by decide
  have hfits : (ofRows ragged).rows * (ofRows ragged).cols ≤ Numeric.maxIndex := by decide
  have hempty : (ofRows ragged).value ⟨0, 1⟩ = .empty := hvalue 0 1
  refine ⟨⟨hinside.1, hinside.2, hfits⟩, ⟨hempty, ?_⟩, hset ⟨0, 1⟩ hinside, ?_, hnone rfl⟩
  · rw [(hchecked hfits).2, hempty]
  · exact hrows (Nat.zero_lt_of_lt hinside.2)

end Spreadsheet.Grid
