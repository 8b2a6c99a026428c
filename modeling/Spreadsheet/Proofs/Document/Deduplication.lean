import Spreadsheet.Proofs.Block.FirstOccurrences
import Spreadsheet.Proofs.Cell.Equality
import Spreadsheet.Proofs.Document.Shape

/-!
# Rows without duplicates

`removeDuplicateRows` keeps the rows of a rectangle that differ from every row above them
(`distinctRows`). They move up whole, one behind the other, and the rows that become free are blank
(`removeDuplicateRows_moves_rows`). Done again, the kept rows differ from each other as before, and
of the blank rows behind them at most the first can differ from all above it, so every row stays
where it is (`removeDuplicateRows_idempotent`).
-/

namespace Spreadsheet.Document

variable {d e : Document} {r : Rectangle} {p q : Position} {c : Cell} {i j : Nat} {range : String}

/-! ## Rows that differ -/

/-- Whether two rows of a rectangle differ in the value or the formula of some column. -/
def RowsDiffer (d : Document) (r : Rectangle) (i j : Nat) : Prop :=
  ∃ col ≤ r.last.col, r.first.col ≤ col ∧
    ((d.cell ⟨i, col⟩).value.same (d.cell ⟨j, col⟩).value = false ∨
      (d.cell ⟨i, col⟩).formula ≠ (d.cell ⟨j, col⟩).formula)

instance (d : Document) (r : Rectangle) (i j : Nat) : Decidable (d.RowsDiffer r i j) :=
  inferInstanceAs (Decidable (∃ col ≤ r.last.col, _))

/-- The rows of a rectangle that differ from every row above them in it, from the top. -/
def distinctRows (d : Document) (r : Rectangle) : List Nat :=
  (List.range' r.first.row r.height).filter fun i =>
    ∀ j < i, r.first.row ≤ j → d.RowsDiffer r j i

theorem duplicate_trans (a b c : Cell) (hab : duplicate a b) (hbc : duplicate b c) :
    duplicate a c := by
  simp only [duplicate, Bool.and_eq_true, beq_iff_eq] at hab hbc ⊢
  exact ⟨Value.same_trans hab.1 hbc.1, hab.2.trans hbc.2⟩

theorem duplicate_eq_false_iff (b c : Cell) :
    duplicate b c = false ↔ b.value.same c.value = false ∨ b.formula ≠ c.formula := by
  rw [duplicate, Bool.and_eq_false_iff, beq_eq_false_iff_ne]

theorem rowsDiffer_iff (hr : ∀ axis, r.first.index axis ≤ r.last.index axis) :
    d.RowsDiffer r i j ↔
      Block.sameRow duplicate (r.line d.cell i) (r.line d.cell j) = false := by
  have hcol : r.first.col ≤ r.last.col := hr .column
  rw [← Bool.not_eq_true, Rectangle.line, Rectangle.line, Block.sameRow_map_iff]
  simp only [not_forall, Bool.not_eq_true, duplicate_eq_false_iff, List.mem_range,
    Rectangle.width]
  constructor
  · rintro ⟨col, hlast, hfirst, h⟩
    refine ⟨col - r.first.col, by omega, ?_⟩
    rwa [Nat.add_sub_cancel' hfirst]
  · rintro ⟨x, hx, h⟩
    exact ⟨r.first.col + x, by omega, Nat.le_add_right _ x, h⟩

theorem firstOccurrences_block (hr : ∀ axis, r.first.index axis ≤ r.last.index axis) :
    (Block.firstOccurrences (Block.sameRow duplicate) (r.block d.cell)).map (r.first.row + ·) =
      d.distinctRows r := by
  have htrans : ∀ xs ys zs, Block.sameRow duplicate xs ys → Block.sameRow duplicate ys zs →
      Block.sameRow duplicate xs zs :=
    fun _ _ _ => Block.sameRow_trans duplicate_trans
  rw [Block.firstOccurrences_eq_filter htrans, distinctRows, List.range'_eq_map_range,
    List.filter_map, r.length_block]
  refine congrArg _ (List.filter_congr fun i hi => decide_eq_decide.mpr ?_)
  have hi : i < r.height := List.mem_range.mp hi
  constructor
  · intro h j hj hfirst
    have hj : j < r.first.row + i := hj
    have hoffset : j - r.first.row < i := by omega
    have hsame := h _ hoffset _ (Rectangle.getElem?_block (hoffset.trans hi) d.cell) _
      (Rectangle.getElem?_block hi d.cell)
    rw [Nat.add_sub_cancel' hfirst] at hsame
    exact (rowsDiffer_iff hr).mpr hsame
  · intro h j hj x hx y hy
    rw [Rectangle.getElem?_block (hj.trans hi)] at hx
    rw [Rectangle.getElem?_block hi] at hy
    obtain rfl := Option.some.inj hx
    obtain rfl := Option.some.inj hy
    exact (rowsDiffer_iff hr).mp (h _ (Nat.add_lt_add_left hj _) (Nat.le_add_right _ j))

theorem removeDuplicates_block (hr : ∀ axis, r.first.index axis ≤ r.last.index axis) :
    Block.removeDuplicates (Block.sameRow duplicate) (r.block d.cell) =
      (d.distinctRows r).map (r.line d.cell) := by
  have hlt : ∀ i ∈ Block.firstOccurrences (Block.sameRow duplicate) (r.block d.cell),
      i < r.height := by
    intro i hi
    have hm : r.first.row + i ∈ d.distinctRows r := by
      rw [← firstOccurrences_block hr]
      exact List.mem_map_of_mem hi
    exact Nat.lt_of_add_lt_add_left (List.mem_range'_1.mp (List.mem_filter.mp hm).1).2
  rw [← firstOccurrences_block hr, List.map_map, ← List.filterMap_eq_map, Block.removeDuplicates]
  exact List.filterMap_congr fun i hi => Rectangle.getElem?_block (hlt i hi) d.cell

/-! ## Placed rows -/

theorem mem_placed_iff {first : Position} {rows : List (List Cell)} :
    (q, c) ∈ placed first rows ↔ first.row ≤ q.row ∧ first.col ≤ q.col ∧
      (rows[q.row - first.row]?).bind (·[q.col - first.col]?) = some c := by
  constructor
  · intro h
    obtain ⟨i, j, row, hi, hj, rfl⟩ := mem_placed h
    refine ⟨Nat.le_add_right _ i, Nat.le_add_right _ j, ?_⟩
    simp only [Nat.add_sub_cancel_left, hi, Option.bind_some, hj]
  · rintro ⟨hrow, hcol, h⟩
    obtain ⟨row, hi, hj⟩ := Option.bind_eq_some_iff.mp h
    have hi : (row, q.row - first.row) ∈ rows.zipIdx := List.mem_zipIdx_iff_getElem?.mpr hi
    have hj : (c, q.col - first.col) ∈ row.zipIdx := List.mem_zipIdx_iff_getElem?.mpr hj
    refine List.mem_flatMap.mpr ⟨_, hi, List.mem_map.mpr ⟨_, hj, ?_⟩⟩
    simp only [Nat.add_sub_cancel' hrow, Nat.add_sub_cancel' hcol]

/-- Each position of a rectangle holds the cell of its column in the row that was placed there. -/
theorem lastOf_placed_line (hp : r.Contains p) (rows : List Nat) :
    lastOf p (placed r.first (rows.map (r.line d.cell))) =
      (rows[p.row - r.first.row]?).map fun k => d.cell ⟨k, p.col⟩ := by
  refine Option.ext fun c => ?_
  rw [lastOf_eq_some_iff, mem_placed_iff, List.getElem?_map]
  · cases rows[p.row - r.first.row]? with
    | none => simp
    | some k => simp [Rectangle.getElem?_line hp, hp.1.1, hp.2.1]
  · intro y hx hy
    rw [mem_placed_iff] at hx hy
    exact Option.some.inj (hx.2.2.symm.trans hy.2.2)

/-! ## The sheet afterwards -/

theorem getElem?_removeDuplicateRows (h : d.WellFormed) (hr : d.rectangle range = .ok r)
    (he : d.removeDuplicateRows range = .ok e) (p : Position) :
    e.cells[p]? = if r.Contains p then
      ((d.distinctRows r)[p.row - r.first.row]?).bind fun k => d.cells[(⟨k, p.col⟩ : Position)]?
    else d.cells[p]? := by
  have hbounds := fun axis => (rectangle_bounds hr h.length_pos axis).1
  obtain ⟨r', hr', rfl⟩ := removeDuplicateRows_eq_ok.mp he
  obtain rfl := Except.ok.inj (hr.symm.trans hr')
  rw [getElem?_putCells, getElem?_filter_key]
  by_cases hp : r.Contains p
  · rw [removeDuplicates_block hbounds, lastOf_placed_line hp, if_pos hp]
    cases (d.distinctRows r)[p.row - r.first.row]? with
    | none => simp [hp]
    | some k => exact (h.getElem?_eq ⟨k, p.col⟩).symm
  · have hnone : lastOf p (placed r.first
        (Block.removeDuplicates (Block.sameRow duplicate) (r.block d.cell))) = none :=
      lastOf_eq_none_iff.mpr fun c hc => hp (of_mem_placed_removeDuplicates hbounds hc).1
    simp [hnone, hp]

/-- The second sheet is the first one with the distinct rows of a rectangle moved up whole, the rows
behind them in the rectangle blank, and all else as it was. -/
structure Deduplicated (d e : Document) (r : Rectangle) : Prop extends SameShape d e where
  moved : ∀ i k, (d.distinctRows r)[i]? = some k → ∀ col, r.first.col ≤ col → col ≤ r.last.col →
    e.cells[(⟨r.first.row + i, col⟩ : Position)]? = d.cells[(⟨k, col⟩ : Position)]?
  cleared : ∀ p, r.Contains p → r.first.row + (d.distinctRows r).length ≤ p.row →
    e.cells[p]? = none
  outside : ∀ p, ¬ r.Contains p → e.cells[p]? = d.cells[p]?

theorem mem_distinctRows (hr : ∀ axis, r.first.index axis ≤ r.last.index axis) :
    i ∈ d.distinctRows r ↔ (r.first.row ≤ i ∧ i ≤ r.last.row) ∧
      ∀ j < i, r.first.row ≤ j → d.RowsDiffer r j i := by
  have hrow : r.first.row ≤ r.last.row := hr .row
  rw [distinctRows, List.mem_filter, List.mem_range'_1, decide_eq_true_eq, Rectangle.height]
  refine and_congr_left fun _ => ?_
  omega

theorem pairwise_distinctRows (d : Document) (r : Rectangle) :
    (d.distinctRows r).Pairwise (· < ·) :=
  List.Pairwise.filter _ List.pairwise_lt_range'

theorem length_distinctRows_le (d : Document) (r : Rectangle) :
    (d.distinctRows r).length ≤ r.height :=
  (List.length_filter_le _ _).trans_eq List.length_range'

theorem exists_removeDuplicateRows_eq_ok (hr : d.rectangle range = .ok r) :
    ∃ e, d.removeDuplicateRows range = .ok e :=
  ⟨_, removeDuplicateRows_eq_ok.mpr ⟨r, hr, rfl⟩⟩

theorem deduplicated (h : d.WellFormed) (hr : d.rectangle range = .ok r)
    (he : d.removeDuplicateRows range = .ok e) : Deduplicated d e r := by
  have hbounds := fun axis => (rectangle_bounds hr h.length_pos axis).1
  have hcells := getElem?_removeDuplicateRows h hr he
  obtain ⟨_, -, rfl⟩ := removeDuplicateRows_eq_ok.mp he
  refine ⟨.withCells d _, fun i k hi col hfirst hlast => ?_, fun p hp hlength => ?_,
    fun p hp => ?_⟩
  · have hlt : i < r.height :=
      (List.getElem?_eq_some_iff.mp hi).1.trans_le (length_distinctRows_le d r)
    have hrow : r.first.row ≤ r.last.row := hbounds .row
    have hp : r.Contains ⟨r.first.row + i, col⟩ := by
      unfold Rectangle.height at hlt
      exact ⟨⟨Nat.le_add_right _ i, by simp only; omega⟩, hfirst, hlast⟩
    rw [hcells, if_pos hp, Nat.add_sub_cancel_left, hi, Option.bind_some]
  · rw [hcells, if_pos hp, List.getElem?_eq_none (Nat.le_sub_of_add_le' hlength), Option.bind_none]
  · rw [hcells, if_neg hp]

/-- The rows of a range that differ from every row above them, by value or formula, move up whole
and in order; the rows of the range behind them are blank, and nothing else changes. -/
theorem removeDuplicateRows_moves_rows (h : d.WellFormed) (hr : d.rectangle range = .ok r) :
    ∃ e, d.removeDuplicateRows range = .ok e ∧ Deduplicated d e r := by
  obtain ⟨e, he⟩ := exists_removeDuplicateRows_eq_ok hr
  exact ⟨e, he, deduplicated h hr he⟩

/-- A column with a text twice, the second time in bold, two values that are no number, a formula,
and two cells that show nothing, one of them with a format. -/
def repeated : Document :=
  (empty 8 2).run [.setInput ⟨0, 0⟩ "a", .setCell ⟨1, 0⟩ (.number (0 / 0)) none,
    .setInput ⟨3, 0⟩ "a", .setFormat ⟨3, 0⟩ { bold := some true }, .setInput ⟨3, 1⟩ "beside",
    .setCell ⟨4, 0⟩ (.number (0 / 0)) none, .setFormat ⟨5, 0⟩ { italic := some true },
    .setInput ⟨6, 0⟩ "=A8"]

theorem removeDuplicateRows_moves_rows_of_repeated :
    (repeated.WellFormed ∧ repeated.rectangle "a7:A1" = .ok ⟨⟨0, 0⟩, ⟨6, 0⟩⟩ ∧
      repeated.distinctRows ⟨⟨0, 0⟩, ⟨6, 0⟩⟩ = [0, 1, 2, 4, 6]) ∧
    ∃ e, repeated.removeDuplicateRows "a7:A1" = .ok e ∧
      Deduplicated repeated e ⟨⟨0, 0⟩, ⟨6, 0⟩⟩ ∧ e.cell ⟨4, 0⟩ = repeated.cell ⟨6, 0⟩ := by
  have h : repeated.WellFormed := (WellFormed.empty 8 2).run_short (by decide) (by decide)
  have hr : repeated.rectangle "a7:A1" = .ok ⟨⟨0, 0⟩, ⟨6, 0⟩⟩ := by decide +kernel
  have hrows : repeated.distinctRows ⟨⟨0, 0⟩, ⟨6, 0⟩⟩ = [0, 1, 2, 4, 6] := by decide +kernel
  obtain ⟨e, he, hd⟩ := removeDuplicateRows_moves_rows h hr
  have hmoved := hd.moved 4 6 (by rw [hrows]; rfl) 0 (Nat.le_refl 0) (Nat.le_refl 0)
  exact ⟨⟨h, hr, hrows⟩, e, he, hd, cell_congr hmoved⟩

/-! ## Done again -/

/-- A filter that lets everything in front of what it lets through pass leaves a shorter range. -/
theorem filter_range'_eq_range' {P : Nat → Bool} : ∀ (n s : Nat),
    (∀ i j, s ≤ i → i < j → j < s + n → P j → P i) →
      ∃ m, (List.range' s n).filter P = List.range' s m := by
  intro n
  induction n with
  | zero => exact fun s _ => ⟨0, rfl⟩
  | succ n ih =>
    intro s h
    rw [List.range'_succ, List.filter_cons]
    cases hs : P s with
    | true =>
      obtain ⟨m, hm⟩ := ih (s + 1) fun i j hi hij hj => h i j (by omega) hij (by omega)
      exact ⟨m + 1, by rw [hm, if_pos rfl, List.range'_succ]⟩
    | false =>
      refine ⟨0, ?_⟩
      rw [if_neg Bool.false_ne_true, List.range'_zero, List.filter_eq_nil_iff]
      intro j hj hP
      obtain ⟨hsj, hj⟩ := List.mem_range'_1.mp hj
      rw [h s j (Nat.le_refl s) hsj (by omega) hP] at hs
      cases hs

namespace Deduplicated

theorem cell_moved (h : Deduplicated d e r) {i k col : Nat} (hi : (d.distinctRows r)[i]? = some k)
    (hfirst : r.first.col ≤ col) (hlast : col ≤ r.last.col) :
    e.cell ⟨r.first.row + i, col⟩ = d.cell ⟨k, col⟩ :=
  cell_congr (h.moved i k hi col hfirst hlast)

theorem cell_cleared (h : Deduplicated d e r) (hp : r.Contains p)
    (hlength : r.first.row + (d.distinctRows r).length ≤ p.row) : e.cell p = {} := by
  rw [cell, h.cleared p hp hlength, Option.getD_none]

/-- The rows that were kept differ from each other where they are now. -/
theorem rowsDiffer (h : Deduplicated d e r) (hr : ∀ axis, r.first.index axis ≤ r.last.index axis)
    (hij : i < j) (hj : j < (d.distinctRows r).length) :
    e.RowsDiffer r (r.first.row + i) (r.first.row + j) := by
  have hi := List.getElem?_eq_getElem (hij.trans hj)
  have hlt := List.pairwise_iff_getElem.mp (pairwise_distinctRows d r) i j (hij.trans hj) hj hij
  obtain ⟨⟨hfirst, -⟩, -⟩ := (mem_distinctRows hr).mp (List.getElem_mem (hij.trans hj))
  obtain ⟨-, hdiffer⟩ := (mem_distinctRows hr).mp (List.getElem_mem hj)
  obtain ⟨col, hlast, hcol, hd⟩ := hdiffer _ hlt hfirst
  refine ⟨col, hlast, hcol, ?_⟩
  rwa [h.cell_moved hi hcol hlast, h.cell_moved (List.getElem?_eq_getElem hj) hcol hlast]

/-- Blank rows are alike. -/
theorem not_rowsDiffer (h : Deduplicated d e r)
    (hi : r.first.row + (d.distinctRows r).length ≤ i) (hilast : i ≤ r.last.row)
    (hj : r.first.row + (d.distinctRows r).length ≤ j) (hjlast : j ≤ r.last.row) :
    ¬ e.RowsDiffer r i j := by
  rintro ⟨col, hlast, hcol, hd⟩
  have hp : r.Contains ⟨i, col⟩ := ⟨⟨(Nat.le_add_right _ _).trans hi, hilast⟩, hcol, hlast⟩
  have hq : r.Contains ⟨j, col⟩ := ⟨⟨(Nat.le_add_right _ _).trans hj, hjlast⟩, hcol, hlast⟩
  rw [h.cell_cleared hp hi, h.cell_cleared hq hj] at hd
  rcases hd with hd | hd
  · cases hd
  · exact hd rfl

/-- The distinct rows afterwards are those that were kept, and the first blank one at most. -/
theorem exists_distinctRows_eq (h : Deduplicated d e r)
    (hr : ∀ axis, r.first.index axis ≤ r.last.index axis) :
    ∃ m, (d.distinctRows r).length ≤ m ∧ e.distinctRows r = List.range' r.first.row m := by
  have hrow : r.first.row ≤ r.last.row := hr .row
  have hcount : r.first.row + r.height = r.last.row + 1 := by
    unfold Rectangle.height
    omega
  obtain ⟨m, hm⟩ : ∃ m, e.distinctRows r = List.range' r.first.row m := by
    refine filter_range'_eq_range' r.height r.first.row fun i j hi hij hj hP => ?_
    rw [decide_eq_true_eq] at hP ⊢
    intro k hk hfirst
    by_cases hkept : i < r.first.row + (d.distinctRows r).length
    · -- Both rows were kept.
      have hd := h.rowsDiffer hr (i := k - r.first.row) (j := i - r.first.row) (by omega) (by omega)
      rwa [Nat.add_sub_cancel' hfirst, Nat.add_sub_cancel' hi] at hd
    · -- Both the row and the one behind it are blank, and then the latter is no distinct one.
      exact absurd (hP i hij hi) (h.not_rowsDiffer (by omega) (by omega) (by omega) (by omega))
  refine ⟨m, Nat.le_of_not_lt fun hlt => ?_, hm⟩
  have hmem : r.first.row + m ∈ e.distinctRows r := by
    have hle := length_distinctRows_le d r
    refine (mem_distinctRows hr).mpr ⟨⟨Nat.le_add_right _ m, by omega⟩, fun j hj hfirst => ?_⟩
    have hd := h.rowsDiffer hr (i := j - r.first.row) (j := m) (by omega) hlt
    rwa [Nat.add_sub_cancel' hfirst] at hd
  rw [hm, List.mem_range'_1] at hmem
  exact Nat.lt_irrefl _ hmem.2

/-- What is deduplicated twice was so the first time: every row stays in its place. -/
theorem eq_of_again {f : Document} (h : Deduplicated d e r) (hf : Deduplicated e f r)
    (hr : ∀ axis, r.first.index axis ≤ r.last.index axis) : f = e := by
  obtain ⟨m, hlength, hm⟩ := h.exists_distinctRows_eq hr
  refine hf.eq_of_getElem? fun p => ?_
  by_cases hp : r.Contains p
  · by_cases hrow : p.row < r.first.row + m
    · have hi : (e.distinctRows r)[p.row - r.first.row]? = some p.row := by
        have hlt : p.row - r.first.row < m := Nat.sub_lt_left_of_lt_add hp.1.1 hrow
        rw [hm, List.getElem?_range' hlt, Nat.one_mul, Nat.add_sub_cancel' hp.1.1]
      have hmoved := hf.moved _ _ hi p.col hp.2.1 hp.2.2
      rwa [Nat.add_sub_cancel' hp.1.1] at hmoved
    · have hle : r.first.row + m ≤ p.row := Nat.le_of_not_lt hrow
      rw [h.cleared p hp ((Nat.add_le_add_left hlength _).trans hle), hf.cleared p hp]
      rwa [hm, List.length_range']
  · exact hf.outside p hp

end Deduplicated

/-- Removing the duplicates of a range again succeeds and changes nothing. -/
theorem removeDuplicateRows_idempotent (h : d.WellFormed) (hr : d.rectangle range = .ok r) :
    ∃ e, d.removeDuplicateRows range = .ok e ∧ e.removeDuplicateRows range = .ok e := by
  have hbounds := fun axis => (rectangle_bounds hr h.length_pos axis).1
  obtain ⟨e, he⟩ := exists_removeDuplicateRows_eq_ok hr
  have hd := deduplicated h hr he
  have hr' : e.rectangle range = .ok r := (hd.rectangle_eq range).trans hr
  obtain ⟨f, hf⟩ := exists_removeDuplicateRows_eq_ok hr'
  have hd' := deduplicated (h.removeDuplicateRows he) hr' hf
  exact ⟨e, he, hd.eq_of_again hd' hbounds ▸ hf⟩

/-- A range whose last row is blank, below one with a format that shows nothing either. -/
theorem removeDuplicateRows_idempotent_of_repeated :
    (repeated.WellFormed ∧ repeated.rectangle "A4:B8" = .ok ⟨⟨3, 0⟩, ⟨7, 1⟩⟩) ∧
    ∃ e, repeated.removeDuplicateRows "A4:B8" = .ok e ∧ e.removeDuplicateRows "A4:B8" = .ok e := by
  have h : repeated.WellFormed := (WellFormed.empty 8 2).run_short (by decide) (by decide)
  have hr : repeated.rectangle "A4:B8" = .ok ⟨⟨3, 0⟩, ⟨7, 1⟩⟩ := by decide +kernel
  exact ⟨⟨h, hr⟩, removeDuplicateRows_idempotent h hr⟩

end Spreadsheet.Document
