import Mathlib
import Spreadsheet.Cell.Value

/-!
# Equality of values

Values are compared with their numbers as numbers: `0` equals `-0`, and what is no number equals
nothing. So equality of values is symmetric and transitive, although a value need not equal itself,
and equal values are shown alike, although they need not be the same.
-/

namespace Spreadsheet

theorem Numeric.beq_self_of_isFinite {x : Float} (hx : x.isFinite) : (x == x) = true := by
  refine Float.beq_self_iff.mpr ?_
  rintro rfl
  exact absurd hx (by decide +kernel)

namespace Value

variable {u v w : Value}

theorem same_trans (huv : u.same v) (hvw : v.same w) : u.same w := by
  cases u with
  | empty =>
    cases v with
    | empty => exact hvw
    | _ => cases huv
  | number x =>
    cases v with
    | number y =>
      cases w with
      | number z => exact BEq.trans (α := Float) huv hvw
      | _ => cases hvw
    | _ => cases huv
  | text s =>
    cases v with
    | text t =>
      obtain rfl : s = t := beq_iff_eq.mp huv
      exact hvw
    | _ => cases huv

theorem same_symm (h : u.same v) : v.same u := by
  cases u with
  | empty =>
    cases v with
    | empty => exact h
    | _ => cases h
  | number x =>
    cases v with
    | number y => exact BEq.symm (α := Float) h
    | _ => cases h
  | text s =>
    cases v with
    | text t => exact BEq.symm (α := String) h
    | _ => cases h

theorem isEmpty_eq_of_same (h : u.same v) : u.isEmpty = v.isEmpty := by
  cases u with
  | empty =>
    cases v with
    | empty => rfl
    | _ => cases h
  | _ =>
    cases v with
    | empty => cases h
    | _ => rfl

/-- Equal numbers are shown alike: a zero is shown without its sign. -/
theorem displayNumber_eq_of_beq {x y : Float} (h : (x == y) = true) :
    displayNumber x = displayNumber y := by
  obtain ⟨-, -, rfl | ⟨rfl, rfl⟩ | ⟨rfl, rfl⟩⟩ := Float.beq_iff_ne_nan_and_eq.mp h
  · rfl
  · decide +kernel
  · decide +kernel

theorem display_eq_of_same (h : u.same v) : u.display = v.display := by
  cases u with
  | empty =>
    cases v with
    | empty => rfl
    | _ => cases h
  | number x =>
    cases v with
    | number y => exact displayNumber_eq_of_beq h
    | _ => cases h
  | text s =>
    cases v with
    | text t => exact beq_iff_eq.mp h
    | _ => cases h

end Value

end Spreadsheet
