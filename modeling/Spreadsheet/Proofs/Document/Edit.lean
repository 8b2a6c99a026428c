import Spreadsheet.Document.Edit
import Spreadsheet.Proofs.Formula.Reads
import Spreadsheet.Proofs.Map

/-!
# What the edits of a document do

For every edit: when it succeeds, and which document it makes. The maps of a document are read
through look-ups only, so a lemma about an edit says what `cells[p]?` and `sizes axis` are
afterwards. Later modules cite these lemmas and do not open the edits.

Lengths, sizes and indices are treated along an axis, so that rows and columns share one lemma.
-/

namespace Spreadsheet

/-! ## Axes -/

theorem Position.index_withIndex (p : Position) (a b : Axis) (i : Nat) :
    (p.withIndex a i).index b = if a = b then i else p.index b := by
  cases a <;> cases b <;> rfl

theorem openGap_lt {at_ i n : Nat} (h : i < n) : openGap at_ i < n + 1 := by
  unfold openGap
  split <;> omega

theorem closeGap?_lt {at_ i j n : Nat} (hat : at_ < n) (hi : i < n)
    (h : closeGap? at_ i = some j) : j < n - 1 := by
  unfold closeGap? at h
  split at h
  · cases h
  · simp only [Option.some.injEq] at h
    split at h <;> omega

/-! ## Maps with renamed keys -/

section Maps

variable {κ α : Type} {order : κ → κ → Ordering} [Std.TransCmp order] [Std.LawfulEqCmp order]

/-- An entry of a map with renamed keys comes from one that was renamed to its key. -/
theorem Document.exists_of_getElem?_rekey {rename : κ → Option κ}
    {entries : Std.ExtTreeMap κ α order} {k : κ} {x : α}
    (h : (Document.rekey rename entries)[k]? = some x) :
    ∃ l, rename l = some k ∧ entries[l]? = some x := by
  obtain ⟨⟨l, y⟩, hl, hr⟩ := List.mem_filterMap.mp (mem_of_getElem?_ofList h)
  simp only [Option.map_eq_some_iff, Prod.mk.injEq] at hr
  obtain ⟨k', hk, rfl, rfl⟩ := hr
  exact ⟨l, hk, Std.ExtTreeMap.mem_toList_iff_getElem?_eq_some.mp hl⟩

end Maps

/-! ## Rows without repetitions -/

namespace Block

variable {α : Type} {same : α → α → Bool}

theorem length_firstOccurrencesFrom_le (same : α → α → Bool) : ∀ (rows : List α) (index : Nat)
    (kept : List α), (firstOccurrencesFrom same index kept rows).length ≤ rows.length := by
  intro rows
  induction rows with
  | nil => intro index kept; exact Nat.le_refl 0
  | cons row rows ih =>
    intro index kept
    unfold firstOccurrencesFrom
    split
    · exact Nat.le_succ_of_le (ih (index + 1) kept)
    · exact Nat.succ_le_succ (ih (index + 1) (row :: kept))

theorem length_removeDuplicates_le (same : α → α → Bool) (rows : List α) :
    (removeDuplicates same rows).length ≤ rows.length :=
  Nat.le_trans (List.length_filterMap_le _ _) (length_firstOccurrencesFrom_le same rows 0 [])

theorem mem_of_mem_removeDuplicates {rows : List α} {row : α}
    (h : row ∈ removeDuplicates same rows) : row ∈ rows := by
  obtain ⟨i, -, hi⟩ := List.mem_filterMap.mp h
  exact List.mem_of_getElem? hi

end Block

namespace Document

variable {d e : Document} {p q : Position} {c : Cell}

/-- Whether a position lies inside the sheet. -/
def Inside (d : Document) (p : Position) : Prop := ∀ axis, p.index axis < d.length axis

theorem inside_iff : d.Inside p ↔ p.row < d.rows ∧ p.col < d.cols := by
  constructor
  · intro h
    exact ⟨h .row, h .column⟩
  · intro h axis
    cases axis
    · exact h.1
    · exact h.2

theorem requireInside_of_inside (h : d.Inside p) : d.requireInside p = .ok () :=
  if_pos (inside_iff.mp h)

theorem requireInside_of_not_inside (h : ¬ d.Inside p) :
    d.requireInside p = .error (.outsideGrid p d.rows d.cols) :=
  if_neg fun hp => h (inside_iff.mpr hp)

/-! ## Lengths and sizes -/

theorem length_withAxis (d : Document) (a b : Axis) (n : Nat) (s : Sizes) :
    (d.withAxis a n s).length b = if a = b then n else d.length b := by
  cases a <;> cases b <;> rfl

theorem sizes_withAxis (d : Document) (a b : Axis) (n : Nat) (s : Sizes) :
    (d.withAxis a n s).sizes b = if a = b then s else d.sizes b := by
  cases a <;> cases b <;> rfl

@[simp] theorem cells_withAxis (d : Document) (a : Axis) (n : Nat) (s : Sizes) :
    (d.withAxis a n s).cells = d.cells := by
  cases a <;> rfl

@[simp] theorem length_withCells (d : Document) (cells : Cells) (axis : Axis) :
    length { d with cells } axis = d.length axis := by
  cases axis <;> rfl

@[simp] theorem sizes_withCells (d : Document) (cells : Cells) (axis : Axis) :
    sizes { d with cells } axis = d.sizes axis := by
  cases axis <;> rfl

theorem setSize_eq_ok {axis : Axis} {index : Nat} {size : Float} :
    d.setSize axis index size = .ok e ↔ index < d.length axis ∧
      e = d.withAxis axis (d.length axis) ((d.sizes axis).insert index size) := by
  unfold setSize
  by_cases h : index < d.length axis <;> simp [h, eq_comm]

/-! ## Single cells -/

theorem cell_eq (h : d.cells[p]? = some c) : d.cell p = c := by
  rw [cell, h, Option.getD_some]

theorem getElem?_putCell (cells : Cells) (p q : Position) (c : Cell) :
    (putCell cells p c)[q]? =
      if p = q then (if c.isBlank then none else some c) else cells[q]? := by
  unfold putCell
  by_cases hb : c.isBlank <;>
    simp [hb, Std.ExtTreeMap.getElem?_insert, Std.ExtTreeMap.getElem?_erase]

/-- What is stored after a cell was put was put there, not blank, or was stored before. -/
theorem of_getElem?_putCell {cells : Cells} {x : Cell} (h : (putCell cells p c)[q]? = some x) :
    (q = p ∧ x = c ∧ c.isBlank = false) ∨ cells[q]? = some x := by
  rw [getElem?_putCell] at h
  split at h
  · rename_i hp
    split at h
    · cases h
    · rename_i hb
      simp only [Option.some.injEq] at h
      exact Or.inl ⟨hp.symm, h.symm, by simpa using hb⟩
  · exact Or.inr h

theorem setCell_eq_ok {value : Value} {formula : Option String} :
    d.setCell p value formula = .ok e ↔
      d.Inside p ∧ e = d.put p { d.cell p with value, formula } := by
  unfold setCell
  by_cases h : d.Inside p
  · simp [requireInside_of_inside, h, bind, Except.bind, pure, Except.pure, eq_comm]
  · simp [requireInside_of_not_inside, h, bind, Except.bind]

theorem evaluateCell_eq_ok :
    d.evaluateCell p = .ok e ↔ d.Inside p ∧
      ((d.cell p).formula = none ∧ e = d ∨ ∃ formula, (d.cell p).formula = some formula ∧
        e = d.put p { d.cell p with value := d.evaluate formula p }) := by
  unfold evaluateCell
  by_cases h : d.Inside p
  · cases hf : (d.cell p).formula <;>
      simp [requireInside_of_inside, h, hf, bind, Except.bind, pure, Except.pure, eq_comm]
  · simp [requireInside_of_not_inside, h, bind, Except.bind]

theorem setInput_eq_ok {input : String} :
    d.setInput p input = .ok e ↔ ∃ f,
      d.setCell p (Cell.ofInput input).value (Cell.ofInput input).formula = .ok f ∧
        f.evaluateCell p = .ok e := by
  unfold setInput
  cases hs : d.setCell p (Cell.ofInput input).value (Cell.ofInput input).formula <;>
    simp [hs, bind, Except.bind]

theorem setFormat_eq_ok {format : Format} :
    d.setFormat p format = .ok e ↔ d.Inside p ∧ e = d.put p
      { d.cell p with format := some (((d.cell p).format.getD {}).overlay format) } := by
  unfold setFormat
  by_cases h : d.Inside p
  · simp [requireInside_of_inside, h, bind, Except.bind, pure, Except.pure, eq_comm]
  · simp [requireInside_of_not_inside, h, bind, Except.bind]

theorem clearCell_eq_ok :
    d.clearCell p = .ok e ↔ d.Inside p ∧ e = { d with cells := d.cells.erase p } := by
  unfold clearCell
  by_cases h : d.Inside p
  · simp [requireInside_of_inside, h, bind, Except.bind, pure, Except.pure, eq_comm]
  · simp [requireInside_of_not_inside, h, bind, Except.bind]

/-! ## Rows and columns -/

theorem length_renameAxis (d : Document) (a b : Axis) (n : Nat) (rename : Nat → Option Nat) :
    (d.renameAxis a n rename).length b = if a = b then n else d.length b := by
  rw [← length_withAxis d a b n (rekey rename (d.sizes a))]
  exact length_withCells _ _ b

theorem sizes_renameAxis (d : Document) (a b : Axis) (n : Nat) (rename : Nat → Option Nat) :
    (d.renameAxis a n rename).sizes b =
      if a = b then rekey rename (d.sizes a) else d.sizes b := by
  rw [← sizes_withAxis d a b n]
  exact sizes_withCells _ _ b

/-- A cell of a sheet with a renamed axis was stored where the renaming came from. -/
theorem of_getElem?_renameAxis {axis : Axis} {n : Nat} {rename : Nat → Option Nat}
    (h : (d.renameAxis axis n rename).cells[q]? = some c) :
    ∃ (p : Position) (i : Nat), rename (p.index axis) = some i ∧ q = p.withIndex axis i ∧
      d.cells[p]? = some c := by
  have hr : (rekey (fun p => (rename (p.index axis)).map (p.withIndex axis)) d.cells)[q]? =
      some c := h
  obtain ⟨p, hp, hc⟩ := exists_of_getElem?_rekey hr
  obtain ⟨i, hi, rfl⟩ := Option.map_eq_some_iff.mp hp
  exact ⟨p, i, hi, rfl, hc⟩

theorem insert_eq_ok {axis : Axis} {index : Nat} :
    d.insert axis index = .ok e ↔ index ≤ d.length axis ∧
      e = d.renameAxis axis (Numeric.wrapIndex (d.length axis + 1)) (some ∘ openGap index) := by
  unfold insert
  by_cases h : index ≤ d.length axis <;> simp [h, eq_comm]

theorem delete_eq_ok {axis : Axis} {index : Nat} :
    d.delete axis index = .ok e ↔ index < d.length axis ∧ d.length axis ≠ 1 ∧
      e = d.renameAxis axis (d.length axis - 1) (closeGap? index) := by
  unfold delete
  by_cases h : d.length axis ≤ index
  · simp [h, Nat.not_lt.mpr h]
  · by_cases h₁ : d.length axis = 1
    · rw [h₁] at h
      simp [h, h₁]
    · simp [h, h₁, Nat.not_le.mp h, eq_comm]

/-! ## Ranges -/

/-- The rectangle of a range has its first corner before its last one, and both in the sheet. -/
theorem rectangle_bounds {range : String} {r : Rectangle} (h : d.rectangle range = .ok r)
    (hd : ∀ axis, 1 ≤ d.length axis) (axis : Axis) :
    r.first.index axis ≤ r.last.index axis ∧ r.last.index axis < d.length axis := by
  have hr : Formula.rangeRectangle (Text.upperAscii (Text.trim range.toList)) .origin d.rows
      d.cols = .ok r := by
    unfold rectangle at h
    cases hr : Formula.rangeRectangle (Text.upperAscii (Text.trim range.toList)) .origin d.rows
      d.cols with
    | ok r' =>
      rw [hr] at h
      cases h
      rfl
    | error e =>
      rw [hr] at h
      cases h
  have hinside := Formula.rangeRectangle_inside (hd .row) (hd .column) hr
  refine ⟨Formula.rangeRectangle_ordered hr axis, ?_⟩
  cases axis
  · exact hinside.1
  · exact hinside.2

theorem inside_of_contains {r : Rectangle} (h : ∀ axis, r.last.index axis < d.length axis)
    (hq : r.Contains q) : d.Inside q := by
  intro axis
  cases axis
  · exact Nat.lt_of_le_of_lt hq.1.2 (h .row)
  · exact Nat.lt_of_le_of_lt hq.2.2 (h .column)

theorem removeDuplicateRows_eq_ok {range : String} :
    d.removeDuplicateRows range = .ok e ↔ ∃ r, d.rectangle range = .ok r ∧
      e = { d with
        cells := putCells (d.cells.filter fun p _ => ¬ r.Contains p)
          (placed r.first
            (Block.removeDuplicates (Block.sameRow duplicate) (r.block d.cell))) } := by
  unfold removeDuplicateRows
  cases d.rectangle range <;> simp [bind, Except.bind, pure, Except.pure, eq_comm]

/-- What is stored after cells were put was put there, not blank, or was stored before. -/
theorem of_getElem?_putCells (entries : List (Position × Cell)) : ∀ (cells : Cells),
    (putCells cells entries)[q]? = some c →
      ((q, c) ∈ entries ∧ c.isBlank = false) ∨ cells[q]? = some c := by
  induction entries with
  | nil => intro cells h; exact Or.inr h
  | cons entry entries ih =>
    intro cells h
    rcases ih (putCell cells entry.1 entry.2) h with ⟨hm, hb⟩ | hc
    · exact Or.inl ⟨List.mem_cons_of_mem entry hm, hb⟩
    · rcases of_getElem?_putCell hc with ⟨rfl, rfl, hb⟩ | hc
      · exact Or.inl ⟨List.mem_cons_self, hb⟩
      · exact Or.inr hc

/-- A position holds the last cell that was put there, unless it is blank, or what was stored
before. -/
theorem getElem?_putCells (entries : List (Position × Cell)) : ∀ {cells : Cells},
    (putCells cells entries)[p]? =
      match lastOf p entries with
      | none => cells[p]?
      | some c => if c.isBlank then none else some c := by
  induction entries with
  | nil => intro cells; rfl
  | cons entry entries ih =>
    intro cells
    have h := @ih (putCell cells entry.1 entry.2)
    rw [getElem?_putCell] at h
    refine Eq.trans h ?_
    -- If nothing further is put there, this entry is the last one.
    rw [lastOf]
    cases lastOf p entries with
    | some c => rfl
    | none =>
      by_cases hp : entry.1 = p
      · simp only [hp, if_true, Option.none_or]
      · simp only [hp, if_false, Option.none_or]

theorem mem_placed {first : Position} {rows : List (List Cell)}
    (h : (q, c) ∈ placed first rows) :
    ∃ i j row, rows[i]? = some row ∧ row[j]? = some c ∧ q = ⟨first.row + i, first.col + j⟩ := by
  obtain ⟨⟨row, i⟩, hr, hq⟩ := List.mem_flatMap.mp h
  obtain ⟨⟨x, j⟩, hx, hq⟩ := List.mem_map.mp hq
  simp only [Prod.mk.injEq] at hq
  obtain ⟨rfl, rfl⟩ := hq
  exact ⟨i, j, row, List.mem_zipIdx_iff_getElem?.mp hr, List.mem_zipIdx_iff_getElem?.mp hx, rfl⟩

/-- A cell that stands in the rectangle after its repeated rows went stood in it before. -/
theorem of_mem_placed_removeDuplicates {r : Rectangle} {same : List Cell → List Cell → Bool}
    (hr : ∀ axis, r.first.index axis ≤ r.last.index axis)
    (h : (q, c) ∈ placed r.first (Block.removeDuplicates same (r.block d.cell))) :
    r.Contains q ∧ ∃ p, r.Contains p ∧ c = d.cell p := by
  obtain ⟨i, j, row, hi, hj, rfl⟩ := mem_placed h
  obtain ⟨k, hk, hrow⟩ :=
    Rectangle.mem_block (Block.mem_of_mem_removeDuplicates (List.mem_of_getElem? hi))
  have hi' : i < r.height := by
    rw [← r.length_block d.cell]
    exact Nat.lt_of_lt_of_le (List.getElem?_eq_some_iff.mp hi).1
      (Block.length_removeDuplicates_le same _)
  rw [hrow, List.getElem?_map, Option.map_eq_some_iff] at hj
  obtain ⟨j', hj', hc⟩ := hj
  obtain ⟨hj, rfl⟩ : j < r.width ∧ j = j' := by
    simpa [List.getElem?_eq_some_iff] using hj'
  exact ⟨r.contains_offset hr hi' hj, _, r.contains_offset hr hk hj, hc.symm⟩

theorem findAndReplace_eq_ok {range pattern replacement : String} :
    d.findAndReplace range pattern replacement = .ok e ↔
      ∃ r compiled, d.rectangle range = .ok r ∧ Pattern.parse pattern = .ok compiled ∧
        e = { d with
          cells := d.cells.map fun p c =>
            if r.Contains p ∧ c.formula.isNone then
              { c with value := Block.replaceInValue compiled replacement c.value }
            else c } := by
  unfold findAndReplace
  cases d.rectangle range with
  | error => simp [bind, Except.bind]
  | ok r =>
    cases Pattern.parse pattern with
    | error => simp [bind, Except.bind]
    | ok compiled =>
      simp only [bind, Except.bind, pure, Except.pure, Except.ok.injEq]
      constructor
      · rintro rfl
        exact ⟨r, compiled, rfl, rfl, rfl⟩
      · rintro ⟨_, _, rfl, rfl, rfl⟩
        rfl

end Document

end Spreadsheet
