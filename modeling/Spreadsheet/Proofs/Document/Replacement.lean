import Spreadsheet.Proofs.Document.Shape

/-!
# Replacing texts

The texts of a range are replaced in its block of values, and the block is written back over the
rectangle, value by value (`writeBlock`). Blank positions are written over as well, with nothing, and
cells with a formula are passed over, whatever became of the value they show. So after the block is
written each position holds what was made of its own cell (`getElem?_writeBlock`), and that is what
it is to replace the texts cell by cell (`writeBlock_findAndReplace`).
-/

namespace Spreadsheet.Document

variable {d e : Document} {r : Rectangle} {p q : Position} {cells : Cells} {stored : Option Cell}
  {v w : Value}

/-! ## Values written one after the other -/

/-- What is stored for a cell after a value was written over it. A formula is passed over. -/
def overwritten (stored : Option Cell) (v : Value) : Option Cell :=
  let c := stored.getD {}
  if c.formula.isSome then stored
  else if ({ c with value := v } : Cell).isBlank then none else some { c with value := v }

/-- Writes a value over the cell at a position. -/
def writeValue (cells : Cells) (entry : Position × Value) : Cells :=
  let c := cells[entry.1]?.getD {}
  if c.formula.isSome then cells else putCell cells entry.1 { c with value := entry.2 }

/-- Writes a block of values over a rectangle, row by row. -/
def writeBlock (cells : Cells) (r : Rectangle) (block : List (List Value)) : Cells :=
  (List.zipWith List.zip (r.block id) block).flatten.foldl writeValue cells

theorem getElem?_writeValue (cells : Cells) (p q : Position) (v : Value) :
    (writeValue cells (p, v))[q]? = if p = q then overwritten cells[q]? v else cells[q]? := by
  unfold writeValue overwritten
  by_cases hp : p = q
  · subst hp
    rw [if_pos rfl]
    simp only
    split
    · rfl
    · rw [getElem?_putCell, if_pos rfl]
  · rw [if_neg hp]
    simp only
    split
    · rfl
    · rw [getElem?_putCell, if_neg hp]

theorem overwritten_of_some {formula : String} (h : (stored.getD {}).formula = some formula)
    (v : Value) : overwritten stored v = stored := by
  simp only [overwritten, h, Option.isSome_some, if_true]

theorem overwritten_of_none (h : (stored.getD {}).formula = none) (v : Value) :
    overwritten stored v =
      if (Cell.mk v none (stored.getD {}).format).isBlank then none
      else some (Cell.mk v none (stored.getD {}).format) := by
  simp only [overwritten, h, Option.isSome_none, Bool.false_eq_true, if_false]

theorem getD_overwritten_of_none (h : (stored.getD {}).formula = none) (v : Value) :
    (overwritten stored v).getD {} = Cell.mk v none (stored.getD {}).format := by
  rw [overwritten_of_none h]
  split
  · rename_i hb
    exact (Cell.eq_default_of_isBlank hb).symm
  · rfl

/-- Of two values that are written over a cell, only the last one counts. -/
theorem overwritten_overwritten (stored : Option Cell) (v w : Value) :
    overwritten (overwritten stored v) w = overwritten stored w := by
  cases h : (stored.getD {}).formula with
  | some formula => rw [overwritten_of_some h]
  | none =>
    have hget := getD_overwritten_of_none h v
    have hnone : ((overwritten stored v).getD {}).formula = none := by rw [hget]
    rw [overwritten_of_none hnone, hget, overwritten_of_none h]

theorem getElem?_foldl_writeValue (entries : List (Position × Value)) : ∀ (cells : Cells),
    (entries.foldl writeValue cells)[q]? =
      match lastOf q entries with
      | none => cells[q]?
      | some v => overwritten cells[q]? v := by
  induction entries with
  | nil => intro cells; rfl
  | cons entry entries ih =>
    intro cells
    obtain ⟨p, v⟩ := entry
    rw [List.foldl_cons, ih, getElem?_writeValue, lastOf]
    by_cases hp : p = q
    · cases lastOf q entries with
      | none => simp only [hp, if_true, Option.none_or]
      | some w => simp only [hp, if_true, Option.some_or, overwritten_overwritten]
    · cases lastOf q entries with
      | none => simp only [hp, if_false, Option.none_or]
      | some w => simp only [hp, if_false, Option.some_or]

theorem lastOf_block (hr : ∀ axis, r.first.index axis ≤ r.last.index axis) (f : Position → Value)
    (q : Position) : lastOf q (r.block fun p => (p, f p)).flatten =
      if r.Contains q then some (f q) else none := by
  by_cases hq : r.Contains q
  · rw [if_pos hq, lastOf_eq_some_iff, Rectangle.mem_flatten_block hr]
    · exact ⟨q, hq, rfl⟩
    · intro y hx hy
      rw [Rectangle.mem_flatten_block hr] at hx hy
      obtain ⟨p, -, hp⟩ := hx
      obtain ⟨p', -, hp'⟩ := hy
      cases hp
      cases hp'
      rfl
  · rw [if_neg hq, lastOf_eq_none_iff]
    intro x hx
    obtain ⟨p, hp, he⟩ := (Rectangle.mem_flatten_block hr).mp hx
    cases he
    exact hq hp

/-- A block that is written over its rectangle changes each position by its own value, and none
outside. -/
theorem getElem?_writeBlock (hr : ∀ axis, r.first.index axis ≤ r.last.index axis) (cells : Cells)
    (f : Position → Value) (q : Position) :
    (writeBlock cells r (r.block f))[q]? =
      if r.Contains q then overwritten cells[q]? (f q) else cells[q]? := by
  have hentries : List.zipWith List.zip (r.block id) (r.block f) = r.block fun p => (p, f p) :=
    r.zip_block id f
  rw [writeBlock, hentries, getElem?_foldl_writeValue, lastOf_block hr]
  by_cases hq : r.Contains q
  · rw [if_pos hq, if_pos hq]
  · rw [if_neg hq, if_neg hq]

/-! ## Replaced texts -/

variable {compiled : Pattern} {range pattern replacement : String}

/-- The cell with the matches of a pattern replaced in the text it holds, if it has no formula. -/
def replaceInCell (compiled : Pattern) (replacement : String) (c : Cell) : Cell :=
  if c.formula.isNone then
    { c with value := Block.replaceInValue compiled replacement c.value }
  else c

theorem isEmpty_replaceInValue (compiled : Pattern) (replacement : String) (v : Value) :
    (Block.replaceInValue compiled replacement v).isEmpty = v.isEmpty := by
  cases v <;> rfl

theorem isBlank_replaceInCell (compiled : Pattern) (replacement : String) (c : Cell) :
    (replaceInCell compiled replacement c).isBlank = c.isBlank := by
  unfold replaceInCell
  split
  · simp only [Cell.isBlank, isEmpty_replaceInValue]
  · rfl

theorem replaceInCell_of_text {c : Cell} {s : String} (hf : c.formula = none)
    (hv : c.value = .text s) : replaceInCell compiled replacement c =
      { c with value := .text (compiled.replaceAll replacement s) } := by
  simp only [replaceInCell, hf, Option.isNone_none, if_true, hv, Block.replaceInValue]

theorem replaceInCell_of_not_text {c : Cell} (h : ¬ (c.formula = none ∧ ∃ s, c.value = .text s)) :
    replaceInCell compiled replacement c = c := by
  obtain ⟨value, formula, format⟩ := c
  cases formula with
  | some formula => rfl
  | none =>
    cases value with
    | text s => exact absurd ⟨rfl, s, rfl⟩ h
    | _ => rfl

/-- Writing back what the texts became is to replace them in their cells. -/
theorem overwritten_replaced (h : d.WellFormed) (q : Position) :
    overwritten d.cells[q]? (Block.replaceInValue compiled replacement (d.value q)) =
      d.cells[q]?.map (replaceInCell compiled replacement) := by
  have hvalue : d.value q = (d.cells[q]?.getD {}).value := rfl
  rw [hvalue]
  cases hc : d.cells[q]? with
  | none => rfl
  | some c =>
    have hb : (replaceInCell compiled replacement c).isBlank = false := by
      rw [isBlank_replaceInCell, h.notBlank hc]
    obtain ⟨value, formula, format⟩ := c
    cases formula with
    | some formula => rfl
    | none => exact (overwritten_of_none rfl _).trans (if_neg (Bool.eq_false_iff.mp hb))

theorem getElem?_findAndReplace (hr : d.rectangle range = .ok r)
    (hp : Pattern.parse pattern = .ok compiled)
    (he : d.findAndReplace range pattern replacement = .ok e) (q : Position) :
    e.cells[q]? = if r.Contains q then d.cells[q]?.map (replaceInCell compiled replacement)
      else d.cells[q]? := by
  obtain ⟨r', compiled', hr', hp', rfl⟩ := findAndReplace_eq_ok.mp he
  obtain rfl := Except.ok.inj (hr.symm.trans hr')
  obtain rfl := Except.ok.inj (hp.symm.trans hp')
  refine Std.ExtTreeMap.getElem?_map.trans ?_
  by_cases hq : r.Contains q
  · simp only [hq, true_and, if_true]
    rfl
  · simp [hq]

/-- A block of texts that were replaced, written back, makes the cells that `findAndReplace` does. -/
theorem writeBlock_findAndReplace (h : d.WellFormed) (hr : d.rectangle range = .ok r)
    (hp : Pattern.parse pattern = .ok compiled)
    (he : d.findAndReplace range pattern replacement = .ok e) :
    ∃ block, Block.findAndReplace (r.block d.value) pattern replacement = .ok block ∧
      writeBlock d.cells r block = e.cells := by
  have hbounds := fun axis => (rectangle_bounds hr h.length_pos axis).1
  refine ⟨r.block fun p => Block.replaceInValue compiled replacement (d.value p), ?_, ?_⟩
  · simp only [Block.findAndReplace, hp]
    exact congrArg Except.ok (r.map_block _ _)
  · refine Std.ExtTreeMap.ext_getElem? fun q => ?_
    rw [getElem?_writeBlock hbounds, getElem?_findAndReplace hr hp he]
    by_cases hq : r.Contains q
    · rw [if_pos hq, if_pos hq, overwritten_replaced h]
    · rw [if_neg hq, if_neg hq]

/-- The second sheet is the first one with the texts in a rectangle replaced that no formula stands
behind. -/
structure Replaced (d e : Document) (r : Rectangle) (replace : String → String) : Prop
    extends SameShape d e where
  text : ∀ p s, r.Contains p → (d.cell p).formula = none → (d.cell p).value = .text s →
    e.cell p = { d.cell p with value := .text (replace s) }
  other : ∀ p, ¬ (r.Contains p ∧ (d.cell p).formula = none ∧ ∃ s, (d.cell p).value = .text s) →
    e.cells[p]? = d.cells[p]?
  stored : ∀ p, p ∈ e.cells ↔ p ∈ d.cells

theorem replaced (hr : d.rectangle range = .ok r) (hp : Pattern.parse pattern = .ok compiled)
    (he : d.findAndReplace range pattern replacement = .ok e) :
    Replaced d e r (compiled.replaceAll replacement) := by
  have hcells := getElem?_findAndReplace hr hp he
  have hshape : SameShape d e := by
    obtain ⟨_, _, -, -, rfl⟩ := findAndReplace_eq_ok.mp he
    exact .withCells d _
  refine ⟨hshape, fun q s hq hf hv => ?_, fun q hq => ?_, fun q => ?_⟩
  · -- A cell with a text is stored.
    cases hc : d.cells[q]? with
    | none =>
      rw [cell, hc] at hv
      cases hv
    | some c =>
      rw [cell_eq hc] at hf hv ⊢
      rw [cell, hcells, if_pos hq, hc, Option.map_some, Option.getD_some,
        replaceInCell_of_text hf hv]
  · rw [hcells]
    split
    · rename_i hin
      cases hc : d.cells[q]? with
      | none => rfl
      | some c =>
        rw [cell_eq hc] at hq
        rw [Option.map_some, replaceInCell_of_not_text fun ht => hq ⟨hin, ht⟩]
    · rfl
  · rw [← Std.ExtTreeMap.isSome_getElem?_iff_mem, ← Std.ExtTreeMap.isSome_getElem?_iff_mem, hcells]
    split
    · rw [Option.isSome_map]
    · rfl

/-- The texts of a range that no formula stands behind are replaced, and nothing else changes, not
even which positions are stored. Replacing the texts in the block of the values that the range shows
and writing it back position by position comes to the same. -/
theorem findAndReplace_touches_texts (h : d.WellFormed) (hr : d.rectangle range = .ok r)
    (hp : Pattern.parse pattern = .ok compiled) (replacement : String) :
    ∃ e, d.findAndReplace range pattern replacement = .ok e ∧
      Replaced d e r (compiled.replaceAll replacement) ∧
      ∃ block, Block.findAndReplace (r.block d.value) pattern replacement = .ok block ∧
        writeBlock d.cells r block = e.cells := by
  obtain ⟨e, he⟩ : ∃ e, d.findAndReplace range pattern replacement = .ok e :=
    ⟨_, findAndReplace_eq_ok.mpr ⟨r, compiled, hr, hp, rfl⟩⟩
  exact ⟨e, he, replaced hr hp he, writeBlock_findAndReplace h hr hp he⟩

/-- A text in bold, a formula that shows one, a number, a text that is emptied, and one outside. -/
def catalogue : Document :=
  (empty 3 2).run [.setInput ⟨0, 0⟩ "cats", .setFormat ⟨0, 0⟩ { bold := some true },
    .setInput ⟨0, 1⟩ "=LOWER(A1)", .setInput ⟨1, 0⟩ "7", .setInput ⟨1, 1⟩ "cat",
    .setInput ⟨2, 0⟩ "cat"]

/-- What `ca+t` reads as. -/
def catPattern : Pattern where
  body := .sequence (.literal ['c'])
    (.sequence (.repetition (.literal ['a']) 1 none true) (.literal ['t']))
  groups := 0
  names := []

theorem findAndReplace_touches_texts_of_catalogue :
    (catalogue.WellFormed ∧ catalogue.rectangle "b2:A1" = .ok ⟨⟨0, 0⟩, ⟨1, 1⟩⟩ ∧
      Pattern.parse "ca+t" = .ok catPattern) ∧
    ∃ e, catalogue.findAndReplace "b2:A1" "ca+t" "" = .ok e ∧
      Replaced catalogue e ⟨⟨0, 0⟩, ⟨1, 1⟩⟩ (catPattern.replaceAll "") ∧
      e.cell ⟨0, 0⟩ = { value := .text "s", format := some { bold := some true } } ∧
      e.cell ⟨0, 1⟩ = { value := .text "cats", formula := some "=LOWER(A1)" } ∧
      e.cell ⟨1, 1⟩ = { value := .text "" } := by
  have h : catalogue.WellFormed := (WellFormed.empty 3 2).run_short (by decide) (by decide)
  have hr : catalogue.rectangle "b2:A1" = .ok ⟨⟨0, 0⟩, ⟨1, 1⟩⟩ := by decide +kernel
  have hp : Pattern.parse "ca+t" = .ok catPattern := rfl
  obtain ⟨e, he, hreplaced, -⟩ := findAndReplace_touches_texts h hr hp ""
  refine ⟨⟨h, hr, hp⟩, e, he, hreplaced, ?_, ?_, ?_⟩
  · rw [hreplaced.text ⟨0, 0⟩ "cats" (by decide) (by decide +kernel) (by decide +kernel)]
    decide +kernel
  · have hformula : (catalogue.cell ⟨0, 1⟩).formula ≠ none := by decide +kernel
    rw [cell_congr (hreplaced.other ⟨0, 1⟩ fun ht => hformula ht.2.1)]
    decide +kernel
  · rw [hreplaced.text ⟨1, 1⟩ "cat" (by decide) (by decide +kernel) (by decide +kernel)]
    decide +kernel

end Spreadsheet.Document
