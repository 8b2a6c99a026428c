import Spreadsheet.Document.Basic
import Spreadsheet.Proofs.Cell.Equality
import Spreadsheet.Proofs.Map

/-!
# Equal sheets

Equal sheets have cells at the same positions, with equal values in them.
-/

namespace Spreadsheet.Document

variable {d e : Document}

theorem rel_lastOf {κ α : Type} [DecidableEq κ] {same : α → α → Bool} {l m : List (κ × α)}
    (h : sameEntries same l m) (k : κ) :
    Option.Rel (fun x y => same x y) (lastOf k l) (lastOf k m) := by
  induction l generalizing m with
  | nil =>
    cases m with
    | nil => exact .none
    | cons _ _ => cases h
  | cons a l ih =>
    cases m with
    | nil => cases h
    | cons b m =>
      obtain ⟨i, x⟩ := a
      obtain ⟨j, y⟩ := b
      simp only [sameEntries, Bool.and_eq_true, beq_iff_eq] at h
      obtain ⟨⟨rfl, hxy⟩, hrest⟩ := h
      have hlast := ih hrest
      simp only [lastOf]
      generalize lastOf k l = o at hlast ⊢
      generalize lastOf k m = o' at hlast ⊢
      cases hlast with
      | some hlast => exact .some hlast
      | none =>
        by_cases hi : i = k
        · rw [if_pos hi, if_pos hi]
          exact .some hxy
        · rw [if_neg hi, if_neg hi]
          exact .none

theorem same_value (h : d.same e) (p : Position) : (d.value p).same (e.value p) := by
  have hcells : sameEntries Cell.same d.cells.toList e.cells.toList := by
    simp only [same, Bool.and_eq_true] at h
    exact h.1.1.2
  have hrel := rel_lastOf hcells p
  rw [lastOf_eq_getElem? fun _ => Iff.rfl, lastOf_eq_getElem? fun _ => Iff.rfl] at hrel
  unfold value cell
  generalize d.cells[p]? = o at hrel ⊢
  generalize e.cells[p]? = o' at hrel ⊢
  cases hrel with
  | none => rfl
  | some hsame =>
    simp only [Cell.same, Bool.and_eq_true] at hsame
    exact hsame.1.1

end Spreadsheet.Document
