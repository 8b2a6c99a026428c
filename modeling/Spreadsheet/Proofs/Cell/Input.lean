import Spreadsheet.Cell.Basic
import Spreadsheet.Proofs.Cell.Equality
import Spreadsheet.Proofs.Numeric.ReadBack

/-!
# Typed inputs

An input that is typed into a cell is a formula, a blank, a finite number or a text. It is a number
exactly if a signed numeral is left when the blanks around it are dropped
(`Value.ofInput_eq_number_iff`). The editor shows a number as a signed numeral, with all its digits
or with as few as it can be told by, and formulas and texts as they are. So what it shows is taken
for what it was (`Cell.ofInput_inputText`).
-/

namespace Spreadsheet

open Numeric

variable {x : Float} {input : String} {text : List Char} {n : Numeral}

/-! ## Texts of numbers -/

theorem not_isBlank_of_writesNumber (h : WritesNumber text x) :
    ∀ c ∈ text, Text.isBlank c = false := by
  exact h.forall_mem (fun _ => isBlank_of_isDigit) (fun _ => isBlank_of_isMark) rfl rfl rfl

theorem head?_ne_of_writesNumber (h : WritesNumber text x) : text.head? ≠ some '=' := by
  have hne : ∀ c ∈ text, c ≠ '=' := by
    refine h.forall_mem (fun c hd => ?_) (fun c hm => ?_) (by decide) (by decide) (by decide)
    · rintro rfl
      exact absurd hd (by decide)
    · rintro rfl
      exact absurd hm (by decide)
  exact fun hh => hne '=' (List.mem_of_mem_head? hh) rfl

namespace Value

theorem trim_of_writesNumber (h : WritesNumber text x) : Text.trim text = text := by
  have ht : Text.trim ([] ++ text ++ []) = text :=
    Text.trim_padded_of_forall nofun nofun (not_isBlank_of_writesNumber h)
  rwa [List.nil_append, List.append_nil] at ht

/-! ## Inputs -/

/-- An input is a number if and only if it is a signed numeral with blanks around it, and the number
is finite. -/
theorem ofInput_eq_number_iff :
    ofInput input = .number x ↔ WritesNumber (Text.trim input.toList) x ∧ x.isFinite := by
  unfold ofInput
  constructor
  · intro h
    simp only at h
    split at h
    · cases h
    · split at h
      · rename_i y hy
        split at h
        · rename_i hfinite
          obtain rfl := Value.number.inj h
          exact ⟨writesNumber_of_readNumber? hy hfinite, hfinite⟩
        · cases h
      · cases h
  · rintro ⟨hw, hx⟩
    have hne : (Text.trim input.toList).isEmpty = false := by
      simpa using hw.ne_nil
    simp only [hne, Bool.false_eq_true, if_false, readNumber?_of_writesNumber hw, hx, if_true]

theorem ofInput_cases (input : String) :
    ofInput input = .empty ∨ (∃ x, ofInput input = .number x) ∨ ofInput input = .text input := by
  unfold ofInput
  simp only
  split
  · exact .inl rfl
  · split
    · split
      · exact .inr (.inl ⟨_, rfl⟩)
      · exact .inr (.inr rfl)
    · exact .inr (.inr rfl)

/-! ## Numbers as they are shown -/

/-- A number other than zero is shown as a signed numeral that is read as it. -/
theorem writesNumber_displayNumber (hx : x.isFinite) (h0 : (x == 0) = false) :
    WritesNumber (displayNumber x).toList x := by
  unfold displayNumber
  rw [if_neg (by rw [h0]; decide)]
  split
  · rename_i h
    simp only [Bool.and_eq_true] at h
    have hw : WritesNumeral (digitChars (wholePart x)) ⟨digitChars (wholePart x), [], 0⟩ := by
      have hw := WritesNumeral.whole (isDigits_digitChars (wholePart x)) .none
      rwa [List.append_nil] at hw
    have hs := writesNumber_of_writesNumeral (isNegative x) hw
    rwa [withSign_value_wholePart hx h.1.2, ← @String.toList_ofList (_ ++ _)] at hs
  · exact writesNumber_render numberLayout hx

/-- A number that is shown is read as the same number, except that a zero loses its sign. -/
theorem ofInput_displayNumber (hx : x.isFinite) :
    ∃ y, ofInput (displayNumber x) = .number y ∧ (y = x ∨ (x == 0) = true ∧ y = 0) := by
  cases h0 : x == 0 with
  | true =>
    refine ⟨0, ?_, .inr ⟨rfl, rfl⟩⟩
    rw [displayNumber, if_pos h0]
    decide +kernel
  | false =>
    have hw := writesNumber_displayNumber hx h0
    refine ⟨x, ofInput_eq_number_iff.mpr ⟨?_, hx⟩, .inl rfl⟩
    rwa [trim_of_writesNumber hw]

theorem head?_displayNumber (hx : x.isFinite) : (displayNumber x).toList.head? ≠ some '=' := by
  cases h0 : x == 0 with
  | true =>
    rw [displayNumber, if_pos h0]
    decide
  | false => exact head?_ne_of_writesNumber (writesNumber_displayNumber hx h0)

end Value

/-! ## The editor -/

namespace Cell

theorem ofInput_of_ne (h : input.toList.head? ≠ some '=') :
    ofInput input = { value := .ofInput input } := by
  unfold ofInput
  split
  · rename_i ht
    rw [ht] at h
    exact absurd rfl h
  · rfl

theorem ofInput_of_eq (h : input.toList.head? = some '=') : ofInput input = ofFormula input := by
  obtain ⟨text, ht⟩ := List.head?_eq_some_iff.mp h
  simp only [ofInput, ht]

/-- What is typed equals itself: no number that is none is typed. -/
theorem same_ofInput (input : String) : (ofInput input).same (ofInput input) := by
  by_cases h : input.toList.head? = some '='
  · rw [ofInput_of_eq h]
    simp [ofFormula, same, Value.same]
  · rw [ofInput_of_ne h]
    rcases Value.ofInput_cases input with hv | ⟨x, hv⟩ | hv
    · rw [hv]
      rfl
    · have hx := (Value.ofInput_eq_number_iff.mp hv).2
      rw [hv]
      simp [same, Value.same, beq_self_of_isFinite hx]
    · rw [hv]
      simp [same, Value.same]

/-- What the editor shows of a typed cell makes this cell, except that a zero loses its sign. -/
theorem ofInput_inputText_cases (input : String) :
    ofInput (ofInput input).inputText = ofInput input ∨
      ∃ x, (x == 0) = true ∧ ofInput input = { value := .number x } ∧
        ofInput (ofInput input).inputText = { value := .number 0 } := by
  by_cases h : input.toList.head? = some '='
  · left
    rw [ofInput_of_eq h]
    exact ofInput_of_eq h
  · have hc := ofInput_of_ne h
    rcases Value.ofInput_cases input with hv | ⟨x, hv⟩ | hv <;> rw [hv] at hc <;> rw [hc]
    · exact .inl (by decide +kernel)
    · have hx := (Value.ofInput_eq_number_iff.mp hv).2
      obtain ⟨y, hy, hyx⟩ := Value.ofInput_displayNumber hx
      have hr := ofInput_of_ne (Value.head?_displayNumber hx)
      rw [hy] at hr
      rcases hyx with rfl | ⟨h0, rfl⟩
      · exact .inl hr
      · exact .inr ⟨x, h0, rfl, hr⟩
    · exact .inl hc

/-- What the editor shows of a typed cell makes the same cell again. It makes equal cells, and all
but those with a zero are even the same to the bit: a zero loses its sign. -/
theorem ofInput_inputText (input : String) :
    (ofInput (ofInput input).inputText).same (ofInput input) ∧
      (ofInput (ofInput input).inputText = ofInput input ∨
        ∃ x, (x == 0) = true ∧ ofInput input = { value := .number x } ∧
          ofInput (ofInput input).inputText = { value := .number 0 }) := by
  have hcases := ofInput_inputText_cases input
  refine ⟨?_, hcases⟩
  rcases hcases with h | ⟨x, h0, hc, hr⟩
  · rw [h]
    exact same_ofInput input
  · rw [hr, hc]
    simp [same, Value.same, BEq.symm h0]

end Cell

end Spreadsheet
