import Spreadsheet.Proofs.Document.Convergence
import Spreadsheet.Proofs.Document.WellFormed

/-!
# One pass of recalculation

A pass visits the stored cells one after the other and writes the value of every formula into the
sheet as it goes (`pass`), while the formulas are evaluated on the sheet from before the pass. So a
visit settles its own cell and touches no other (`getElem?_visit`), and after some visits the cells
that were visited are settled and the others as before (`getElem?_foldl_visit`). Hence the order of
the visits makes no difference (`recalculate_in_any_order`).
-/

namespace Spreadsheet.Document

variable {d : Document} {p q : Position} {c : Cell} {formula : String} {cells : Cells}
  {entries : List (Position × Cell)}

/-! ## Stored cells -/

theorem getElem?_eq_some_cell (hf : (d.cell p).formula = some formula) :
    d.cells[p]? = some (d.cell p) := by
  cases hc : d.cells[p]? with
  | none =>
    rw [cell, hc] at hf
    cases hf
  | some c => rw [cell_eq hc]

/-! ## Visits -/

/-- The cells with the value of one formula written among them, if there is a formula. -/
def visit (d : Document) (cells : Cells) (entry : Position × Cell) : Cells :=
  match entry.2.formula with
  | some formula =>
    cells.modify entry.1 fun c => { c with value := d.evaluate formula entry.1 }
  | none => cells

/-- The sheet after some of its cells were visited, one after the other. -/
def pass (d : Document) (entries : List (Position × Cell)) : Document :=
  { d with cells := entries.foldl d.visit d.cells }

/-- Whether cells differ from those of a sheet in the results of formulas at most. -/
def SameButResults (d : Document) (cells : Cells) : Prop :=
  ∀ p : Position, cells[p]?.map Cell.withoutResult = d.cells[p]?.map Cell.withoutResult

theorem sameButResults_iff :
    d.SameButResults cells ↔ withoutResults { d with cells } = d.withoutResults := by
  constructor
  · intro h
    have hc : (withoutResults { d with cells }).cells = d.withoutResults.cells := by
      refine Std.ExtTreeMap.ext_getElem? fun p => ?_
      rw [getElem?_withoutResults, getElem?_withoutResults]
      exact h p
    exact congrArg (fun cells => Document.mk d.rows d.cols cells d.widths d.heights) hc
  · intro h p
    exact map_withoutResult_eq h p

theorem SameButResults.recalculate (d : Document) : d.SameButResults d.recalculate.cells :=
  sameButResults_iff.mpr (withoutResults_recalculate d)

/-- A visit settles the cell that is visited, whatever was written before, and no other. -/
theorem getElem?_visit (h : d.SameButResults cells) (hp : d.cells[p]? = some c) (q : Position) :
    (d.visit cells (p, c))[q]? = if p = q then d.recalculate.cells[q]? else cells[q]? := by
  by_cases hpq : p = q
  · subst hpq
    rw [if_pos rfl]
    cases hf : c.formula with
    | none =>
      have hnone : (d.cell p).formula = none := (congrArg Cell.formula (cell_eq hp)).trans hf
      have hrec : d.recalculate.cells[p]? = d.cells[p]? :=
        (getElem?_eq_of_no_formula (withoutResults_recalculate d).symm hnone).symm
      have hcells : d.cells[p]? = cells[p]? :=
        getElem?_eq_of_no_formula (sameButResults_iff.mp h).symm hnone
      simp only [visit, hf, hrec, hcells]
    | some formula =>
      have hm := h p
      rw [hp, Option.map_some, Option.map_eq_some_iff] at hm
      obtain ⟨c', hc', hm⟩ := hm
      have hf' : c'.formula = some formula := by
        rw [← Cell.formula_withoutResult c', hm, Cell.formula_withoutResult, hf]
      -- The two cells agree but for their values, and the value is written over.
      rw [Cell.withoutResult_of_some hf, Cell.withoutResult_of_some hf', Cell.mk.injEq] at hm
      simp only [visit, hf, Std.ExtTreeMap.getElem?_modify_self, getElem?_recalculate, hc', hp,
        Option.map_some, hm.2.2, hf']
  · rw [if_neg hpq]
    have hc : Position.order p q ≠ .eq := fun hc => hpq (Std.LawfulEqCmp.eq_of_compare hc)
    unfold visit
    cases c.formula with
    | none => rfl
    | some formula => exact Std.ExtTreeMap.getElem?_modify.trans (if_neg hc)

theorem SameButResults.visit (h : d.SameButResults cells) (hp : d.cells[p]? = some c) :
    d.SameButResults (d.visit cells (p, c)) := by
  intro q
  rw [getElem?_visit h hp]
  split
  · exact SameButResults.recalculate d q
  · exact h q

/-- After some visits, the cells that were visited are settled, and the others are as before. -/
theorem getElem?_foldl_visit (hentries : ∀ e ∈ entries, d.cells[e.1]? = some e.2)
    (h : d.SameButResults cells) (q : Position) :
    (entries.foldl d.visit cells)[q]? =
      if q ∈ entries.map Prod.fst then d.recalculate.cells[q]? else cells[q]? := by
  induction entries generalizing cells with
  | nil => rfl
  | cons e entries ih =>
    have hp : d.cells[e.1]? = some e.2 := hentries e List.mem_cons_self
    rw [List.foldl_cons, ih (fun e' he' => hentries e' (List.mem_cons_of_mem e he')) (h.visit hp),
      getElem?_visit h hp, List.map_cons]
    by_cases hq : e.1 = q
    · simp [hq]
    · rw [if_neg hq]
      simp only [List.mem_cons, Ne.symm hq, false_or]

theorem pass_eq_recalculate (h : entries.Perm d.cells.toList) : d.pass entries = d.recalculate := by
  have hentries : ∀ e ∈ entries, d.cells[e.1]? = some e.2 := fun e he =>
    Std.ExtTreeMap.mem_toList_iff_getElem?_eq_some.mp (h.mem_iff.mp he)
  have hcells : entries.foldl d.visit d.cells = d.recalculate.cells := by
    refine Std.ExtTreeMap.ext_getElem? fun q => ?_
    rw [getElem?_foldl_visit hentries fun _ => rfl]
    split
    · rfl
    · rename_i hq
      -- A cell that is not visited is not stored.
      have hnone : d.cells[q]? = none := by
        refine Option.eq_none_iff_forall_ne_some.mpr fun c hc => hq ?_
        exact List.mem_map.mpr ⟨(q, c), h.mem_iff.mpr
          (Std.ExtTreeMap.mem_toList_iff_getElem?_eq_some.mpr hc), rfl⟩
      rw [getElem?_recalculate, hnone, Option.map_none]
  unfold pass
  rw [hcells]
  rfl

/-! ## What a pass changes -/

/-- The second sheet shows the values of the formulas of the first one, evaluated there, and is the
same otherwise. -/
structure Recalculated (d e : Document) : Prop where
  rows : e.rows = d.rows
  cols : e.cols = d.cols
  widths : e.widths = d.widths
  heights : e.heights = d.heights
  stored : ∀ p, p ∈ e.cells ↔ p ∈ d.cells
  formula : ∀ p, (e.cell p).formula = (d.cell p).formula
  format : ∀ p, (e.cell p).format = (d.cell p).format
  value_of_formula : ∀ p formula, (d.cell p).formula = some formula →
    e.value p = d.evaluate formula p
  value_of_none : ∀ p, (d.cell p).formula = none → e.value p = d.value p

theorem getElem?_recalculate_of_some (hf : (d.cell p).formula = some formula) :
    d.recalculate.cells[p]? = some { d.cell p with value := d.evaluate formula p } := by
  rw [getElem?_recalculate, getElem?_eq_some_cell hf, Option.map_some]
  simp only [hf]

theorem cell_recalculate_of_none (hf : (d.cell p).formula = none) :
    d.recalculate.cell p = d.cell p := by
  unfold cell
  rw [getElem?_eq_of_no_formula (withoutResults_recalculate d).symm hf]

theorem recalculated_recalculate (d : Document) : d.Recalculated d.recalculate where
  rows := rfl
  cols := rfl
  widths := rfl
  heights := rfl
  stored p := Std.ExtTreeMap.mem_map
  formula p := formula_eq_of_withoutResults (withoutResults_recalculate d) p
  format p := by
    cases hf : (d.cell p).formula with
    | none => rw [cell_recalculate_of_none hf]
    | some formula => rw [cell_eq (getElem?_recalculate_of_some hf)]
  value_of_formula p formula hf := congrArg Cell.value (cell_eq (getElem?_recalculate_of_some hf))
  value_of_none p hf := congrArg Cell.value (cell_recalculate_of_none hf)

theorem WellFormed.inside_of_formula (h : d.WellFormed) (hf : (d.cell p).formula = some formula) :
    d.Inside p :=
  h.inside (getElem?_eq_some_cell hf)

/-- A cell with a formula is not blank, so evaluating it alone stores the same as a pass. -/
theorem exists_evaluateCell_eq (hp : d.Inside p) (hf : (d.cell p).formula = some formula) :
    ∃ e, d.evaluateCell p = .ok e ∧ e.cells[p]? = d.recalculate.cells[p]? := by
  refine ⟨_, evaluateCell_eq_ok.mpr ⟨hp, .inr ⟨formula, hf, rfl⟩⟩, ?_⟩
  have hblank : ({ d.cell p with value := d.evaluate formula p } : Cell).isBlank = false := by
    simp [Cell.isBlank, hf]
  have hput := getElem?_putCell d.cells p p { d.cell p with value := d.evaluate formula p }
  rw [if_pos rfl, hblank] at hput
  exact hput.trans (getElem?_recalculate_of_some hf).symm

/-- Visited in any order, the stored cells make the same sheet: every formula shows what it comes to
on the sheet before the pass, and nothing else changes. A formula that is evaluated alone shows the
same, as long as it lies inside the sheet, and all those of a well-formed sheet do. -/
theorem recalculate_in_any_order (d : Document) :
    (∀ entries, entries.Perm d.cells.toList → d.pass entries = d.recalculate) ∧
    d.Recalculated d.recalculate ∧
    (∀ p formula, (d.cell p).formula = some formula → d.Inside p →
      ∃ e, d.evaluateCell p = .ok e ∧ e.cells[p]? = d.recalculate.cells[p]?) ∧
    (d.WellFormed → ∀ p formula, (d.cell p).formula = some formula → d.Inside p) :=
  ⟨fun _ => pass_eq_recalculate, recalculated_recalculate d,
    fun _ _ hf hp => exists_evaluateCell_eq hp hf, fun h _ _ hf => h.inside_of_formula hf⟩

/-- A sum of what other formulas show, visited first or last. -/
theorem recalculate_in_any_order_of_chained :
    chained.pass chained.cells.toList.reverse = chained.recalculate ∧
      chained.recalculate.value ⟨1, 1⟩ = .number 8 ∧
      ∃ e, chained.evaluateCell ⟨0, 0⟩ = .ok e ∧
        e.cells[(⟨0, 0⟩ : Position)]? = chained.recalculate.cells[(⟨0, 0⟩ : Position)]? := by
  obtain ⟨horder, hframe, halone, -⟩ := recalculate_in_any_order chained
  refine ⟨horder _ (List.reverse_perm _), ?_, ?_⟩
  · rw [hframe.value_of_formula ⟨1, 1⟩ "=C1*2" (by decide +kernel)]
    decide +kernel
  · exact halone ⟨0, 0⟩ "=SUM(B1:B2)" (by decide +kernel) (inside_iff.mpr (by decide +kernel))

end Spreadsheet.Document
