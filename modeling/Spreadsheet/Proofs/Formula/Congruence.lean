import Spreadsheet.Formula.Evaluation

/-!
# What the value of a formula is made of

A call is made of what its parameters contribute, an arithmetic text of the texts that its pieces
are filled with. If these are the same on two views, each with an anchor of its own, then the
formula comes to the same (`evaluate?_congr`). Whatever is said of views or anchors has to be shown
for single parameters and pieces only.
-/

namespace Spreadsheet.Formula

/-- Whether a parameter contributes the same values on two views, each at its anchor, and is a
reference to the same value if it is one. -/
structure SameParameter (v w : View) (a b : Position) (parameter : List Char) : Prop where
  values : parameterValues v a parameter = parameterValues w b parameter
  referenced : (Reference.parseAt? parameter a).map (referencedValue · v a) =
    (Reference.parseAt? parameter b).map (referencedValue · w b)

/-- Whether all that a body is made of is the same on two views, each at its anchor. -/
def Body.Same (v w : View) (a b : Position) : Body → Prop
  | .call _ args => ∀ parameter ∈ parameters args, SameParameter v w a b parameter
  | .arithmetic text => ∀ piece ∈ pieces text, piece.fill v a = piece.fill w b

variable {v w : View} {a b : Position}

theorem parametersValues_congr {parameters : List (List Char)}
    (h : ∀ parameter ∈ parameters, SameParameter v w a b parameter) :
    parametersValues parameters v a = parametersValues parameters w b := by
  have hm : parameters.mapM (parameterValues v a) = parameters.mapM (parameterValues w b) := by
    induction parameters with
    | nil => rfl
    | cons parameter parameters ih =>
      rw [List.mapM_cons, List.mapM_cons, (h parameter List.mem_cons_self).values,
        ih fun q hq => h q (List.mem_cons_of_mem parameter hq)]
  unfold parametersValues
  rw [hm]

theorem callText_congr {name : List Char} {f : List Char → List Char}
    {parameters : List (List Char)}
    (h : ∀ parameter ∈ parameters, SameParameter v w a b parameter) :
    callText name f parameters v a = callText name f parameters w b := by
  unfold callText
  split
  · rename_i parameter
    have hr := (h parameter List.mem_cons_self).referenced
    cases ha : Reference.parseAt? parameter a <;> cases hb : Reference.parseAt? parameter b <;>
      simp only [ha, hb, Option.map_none, Option.map_some, Option.some.injEq, reduceCtorEq] at hr
    · rfl
    · simp only [hr]
  · rfl

theorem call_congr {name : List Char} {parameters : List (List Char)}
    (h : ∀ parameter ∈ parameters, SameParameter v w a b parameter) :
    call name parameters v a = call name parameters w b := by
  unfold call
  split
  · rfl
  · unfold callAggregate
    rw [parametersValues_congr h]
  · exact callText_congr h

theorem substitute_congr {text : List Char}
    (h : ∀ piece ∈ pieces text, piece.fill v a = piece.fill w b) :
    substitute text v a = substitute text w b := by
  unfold substitute
  rw [List.flatMap_def, List.flatMap_def, List.map_congr_left h]

theorem evaluate?_congr {formula : String} (h : ∀ body ∈ body? formula, body.Same v w a b) :
    evaluate? formula v a = evaluate? formula w b := by
  unfold evaluate?
  cases hb : body? formula with
  | none => rfl
  | some body =>
    cases body with
    | call name args => exact call_congr (h _ hb)
    | arithmetic text =>
      unfold arithmetic
      simp only [substitute_congr (h _ hb)]

theorem evaluate_congr {formula : String} (h : ∀ body ∈ body? formula, body.Same v w a b) :
    evaluate formula v a = evaluate formula w b := by
  unfold evaluate
  rw [evaluate?_congr h]

end Spreadsheet.Formula
