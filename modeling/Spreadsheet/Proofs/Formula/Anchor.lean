import Spreadsheet.Proofs.Address.Offset
import Spreadsheet.Proofs.Formula.Congruence

/-!
# Formulas and their anchors

A reference is held as an offset from the cell that a formula is written in, and the offset is
undone when the reference is used. As both happen at one anchor, what a formula comes to does not
depend on the anchor at all (`evaluate?_anchor`), nor does anything on the way there.

Two bounds could get in the way: an anchor beyond the greatest coordinate counts as standing on it,
and sums stop at the greatest and least coordinate. The coordinates of a reference that was read
lie in between (`InBounds`), so both steps move by the same distance and stop at no bound.
-/

namespace Spreadsheet

variable (a b : Position)

namespace Formula

open Reference

/-! ## Ranges -/

theorem nearestPosition_relativeTo {r : Reference} (h : r.InBounds) (rows cols : Nat) :
    nearestPosition (r.relativeTo a) a rows cols =
      nearestPosition (r.relativeTo b) b rows cols := by
  unfold nearestPosition
  simp only [rowAt_relativeTo _ h, colAt_relativeTo _ h]

theorem referencedValue_relativeTo {r : Reference} (h : r.InBounds) (view : View) :
    referencedValue (r.relativeTo a) view a = referencedValue (r.relativeTo b) view b := by
  unfold referencedValue
  rw [position?_relativeTo a b h]

/-- The corners of a range are read without the anchor and then made relative to it. -/
theorem rangeCorners?_eq (token : List Char) :
    rangeCorners? token a = (splitRange? token).bind fun sides =>
      (parse? (Text.trim sides.1)).bind fun first =>
        (parse? (Text.trim sides.2)).map fun last => (first.relativeTo a, last.relativeTo a) := by
  unfold rangeCorners? parseAt?
  cases splitRange? token with
  | none => rfl
  | some sides =>
    cases hf : parse? (Text.trim sides.1) <;> cases hl : parse? (Text.trim sides.2) <;>
      simp [hf, hl]

theorem rangeRectangle_anchor (token : List Char) (rows cols : Nat) :
    rangeRectangle token a rows cols = rangeRectangle token b rows cols := by
  unfold rangeRectangle
  rw [rangeCorners?_eq, rangeCorners?_eq]
  cases splitRange? token with
  | none => rfl
  | some sides =>
    cases hf : parse? (Text.trim sides.1) with
    | none => simp [hf]
    | some first =>
      cases hl : parse? (Text.trim sides.2) with
      | none => simp [hf, hl]
      | some last =>
        simp only [hf, hl, Option.bind_some, Option.map_some,
          nearestPosition_relativeTo a b (inBounds_of_parse? hf),
          nearestPosition_relativeTo a b (inBounds_of_parse? hl)]

theorem rangeBlock_anchor (token : List Char) (view : View) :
    rangeBlock token view a = rangeBlock token view b := by
  unfold rangeBlock parseAt?
  rw [rangeRectangle_anchor a b]
  cases hp : parse? token with
  | none => rfl
  | some r => simp only [Option.map_some, referencedValue_relativeTo a b (inBounds_of_parse? hp)]

theorem parameterValues_anchor (view : View) (parameter : List Char) :
    parameterValues view a parameter = parameterValues view b parameter := by
  unfold parameterValues parseAt?
  rw [rangeBlock_anchor a b, bind_position?_anchor a b fun _ => inBounds_of_parse?]

theorem sameParameter_anchor (view : View) (parameter : List Char) :
    SameParameter view view a b parameter where
  values := parameterValues_anchor a b view parameter
  referenced := by
    unfold parseAt?
    cases hp : parse? parameter with
    | none => rfl
    | some r => exact congrArg some (referencedValue_relativeTo a b (inBounds_of_parse? hp) view)

theorem parametersValues_anchor (parameters : List (List Char)) (view : View) :
    parametersValues parameters view a = parametersValues parameters view b :=
  parametersValues_congr fun parameter _ => sameParameter_anchor a b view parameter

/-! ## Arithmetic -/

theorem fill_anchor (view : View) (piece : Piece) : piece.fill view a = piece.fill view b := by
  cases piece with
  | char c => rfl
  | reference spelling =>
    have hn : referencedNumber view a spelling = referencedNumber view b spelling := by
      unfold referencedNumber
      rw [bind_position?_anchor a b fun _ => inBounds_of_ofSpelling?]
    simp only [Piece.fill, hn]

theorem substitute_anchor (text : List Char) (view : View) :
    substitute text view a = substitute text view b :=
  substitute_congr fun piece _ => fill_anchor a b view piece

/-! ## Formulas -/

theorem same_anchor (view : View) : ∀ body : Body, body.Same view view a b
  | .call _ _ => fun parameter _ => sameParameter_anchor a b view parameter
  | .arithmetic _ => fun piece _ => fill_anchor a b view piece

theorem evaluate?_anchor (formula : String) (view : View) :
    evaluate? formula view a = evaluate? formula view b :=
  evaluate?_congr fun body _ => same_anchor a b view body

theorem evaluate_anchor (formula : String) (view : View) :
    evaluate formula view a = evaluate formula view b :=
  evaluate_congr fun body _ => same_anchor a b view body

end Formula

end Spreadsheet
