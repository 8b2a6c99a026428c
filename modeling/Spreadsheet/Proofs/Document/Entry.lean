import Spreadsheet.Proofs.Document.Shape
import Spreadsheet.Proofs.Formula.Reads

/-!
# Typing in a formula

A formula that is typed into a cell is stored there with its own text as the value, evaluated on the
sheet with that text in it, and its value is written over the text. If the formula does not read its
own cell, the three sheets look the same to it. So its value is the one it has on the sheet before
and also the one it has on the sheet after, and evaluating the cell again changes nothing
(`setInput_enters`).
-/

namespace Spreadsheet

namespace Document

variable {d e : Document} {p q : Position} {c : Cell} {formula : String}

/-! ## What a formula sees of a cell that is put -/

theorem agreeOn_put {P : Position → Prop} (hp : ¬ P p) (d : Document) (c : Cell) :
    Formula.AgreeOn P (d.put p c).view d.view where
  rows := rfl
  cols := rfl
  value q hq := by
    have hne : q ≠ p := by
      rintro rfl
      exact hp hq
    have hv : (d.put p c).value q = d.value q := by
      unfold value cell
      rw [getElem?_put_of_ne hne]
    exact if_congr Iff.rfl hv rfl

theorem evaluate_put {anchor : Position} (h : ¬ Formula.Reads formula anchor d.rows d.cols p)
    (c : Cell) : (d.put p c).evaluate formula anchor = d.evaluate formula anchor :=
  Formula.evaluate_eq_of_reads (agreeOn_put h d c)

/-! ## Formulas -/

/-- The cell of a formula that was typed into it: it shows the value, and looks as before. -/
def entered (d : Document) (p : Position) (formula : String) : Cell :=
  { d.cell p with value := d.evaluate formula p, formula := some formula }

theorem evaluateCell_put_entered (hp : d.Inside p)
    (hr : ¬ Formula.Reads formula p d.rows d.cols p) (value : Value) :
    (d.put p { d.entered p formula with value }).evaluateCell p =
      .ok (d.put p (d.entered p formula)) := by
  have hcell := cell_put_self d p { d.entered p formula with value }
  refine evaluateCell_eq_ok.mpr ⟨inside_iff.mpr (inside_iff.mp hp), .inr ⟨formula, ?_, ?_⟩⟩
  · rw [hcell]
    rfl
  · rw [hcell, evaluate_put hr, put_put]
    rfl

theorem setInput_of_formula (hp : d.Inside p) (hf : formula.toList.head? = some '=')
    (hr : ¬ Formula.Reads formula p d.rows d.cols p) :
    d.setInput p formula = .ok (d.put p (d.entered p formula)) := by
  obtain ⟨text, htext⟩ := List.head?_eq_some_iff.mp hf
  have htyped : Cell.ofInput formula = Cell.ofFormula formula := by
    simp only [Cell.ofInput, htext]
  refine setInput_eq_ok.mpr ⟨_, setCell_eq_ok.mpr ⟨hp, rfl⟩, ?_⟩
  rw [htyped]
  exact evaluateCell_put_entered hp hr (.text formula)

/-- The second sheet is the first with a formula in a cell. The cell looks as before, and its value
is that of the formula on both sheets. -/
structure Entered (d e : Document) (p : Position) (formula : String) : Prop where
  rows : e.rows = d.rows
  cols : e.cols = d.cols
  sizes : ∀ axis, e.sizes axis = d.sizes axis
  elsewhere : ∀ q, q ≠ p → e.cells[q]? = d.cells[q]?
  value_before : e.value p = d.evaluate formula p
  value_after : e.value p = e.evaluate formula p
  formula : (e.cell p).formula = some formula
  format : (e.cell p).format = (d.cell p).format
  evaluateCell : e.evaluateCell p = .ok e

/-- A formula that is typed into a cell inside the sheet and does not read that cell is stored there
with its value. The value is the same before and after, and nothing else changes. -/
theorem setInput_enters (hp : d.Inside p) (hf : formula.toList.head? = some '=')
    (hr : ¬ Formula.Reads formula p d.rows d.cols p) :
    ∃ e, d.setInput p formula = .ok e ∧ d.Entered e p formula := by
  refine ⟨_, setInput_of_formula hp hf hr, ?_⟩
  have hcell := cell_put_self d p (d.entered p formula)
  exact {
    rows := rfl
    cols := rfl
    sizes := fun axis => by cases axis <;> rfl
    elsewhere := fun q hq => getElem?_put_of_ne hq d _
    value_before := congrArg Cell.value hcell
    value_after := by rw [evaluate_put hr]; exact congrArg Cell.value hcell
    formula := congrArg Cell.formula hcell
    format := by rw [hcell, entered]
    evaluateCell := evaluateCell_put_entered hp hr _ }

/-- A sheet with a number, a formula that reads it, and a cell in bold. -/
def bolded : Document :=
  (empty 2 3).run [.setInput ⟨0, 0⟩ "7", .setInput ⟨0, 1⟩ "=A1*2",
    .setFormat ⟨1, 2⟩ { bold := some true }]

/-- A range that ends right in front of the cell it is typed into, and a reference beyond the
sheet. -/
theorem setInput_enters_of_bolded :
    (bolded.Inside ⟨1, 2⟩ ∧ "=sum(B2:A1, $b$1, Z9)".toList.head? = some '=' ∧
        ¬ Formula.Reads "=sum(B2:A1, $b$1, Z9)" ⟨1, 2⟩ bolded.rows bolded.cols ⟨1, 2⟩) ∧
      ∃ e, bolded.setInput ⟨1, 2⟩ "=sum(B2:A1, $b$1, Z9)" = .ok e ∧
        bolded.Entered e ⟨1, 2⟩ "=sum(B2:A1, $b$1, Z9)" := by
  have hp : bolded.Inside ⟨1, 2⟩ := inside_iff.mpr (by decide +kernel)
  have hf : "=sum(B2:A1, $b$1, Z9)".toList.head? = some '=' := by decide +kernel
  have hr : ¬ Formula.Reads "=sum(B2:A1, $b$1, Z9)" ⟨1, 2⟩ bolded.rows bolded.cols ⟨1, 2⟩ := by
    decide +kernel
  exact ⟨⟨hp, hf, hr⟩, setInput_enters hp hf hr⟩

end Document

end Spreadsheet
