import Spreadsheet.Proofs.Cell.Input
import Spreadsheet.Proofs.Formula.Enumeration

/-!
# Texts that count as numbers

Arithmetic and aggregates look at nothing but the numbers that values count as: they come to the same
when every value is replaced by its number (`evaluate?_counted`). An input that is taken for a number
also counts as this number while it is still a text (`Value.numberInText?_of_ofInput`). So for such
formulas it makes no difference which of the two a cell holds (`typed_numbers_count_alike`). Text
functions do tell them apart.
-/

namespace Spreadsheet

variable {v w : View} {f : Value → Value} {a : Position} {formula input : String} {x : Float}

/-! ## Inputs and texts -/

/-- The number that an input is taken for is the one at its start. -/
theorem Value.numberInText?_of_ofInput (h : ofInput input = .number x) :
    numberInText? input = some x := by
  obtain ⟨after, hstart, hafter⟩ := Text.exists_trimStart input.toList
  have hpoint : ∀ c : Char, (c = '.' : Bool) → Text.isBlank c = false := by
    intro c hc
    obtain rfl := of_decide_eq_true hc
    rfl
  rw [numberInText?, hstart]
  -- The blanks behind a numeral do not go on with it.
  exact (ofInput_eq_number_iff.mp h).1.leadingNumber?_append
    (stopsAt_of_disjoint (fun _ => Numeric.isBlank_of_isDigit) hafter)
    (stopsAt_of_disjoint (fun _ => Numeric.isBlank_of_isMark) hafter)
    (stopsAt_of_disjoint hpoint hafter)

/-- Two values that are the same, or of which one is an input as a text and the other the number
that it is taken for. -/
inductive Value.TypedAlike : Value → Value → Prop where
  | same (value : Value) : TypedAlike value value
  | text {input : String} {x : Float} : ofInput input = .number x →
      TypedAlike (.number x) (.text input)
  | number {input : String} {x : Float} : ofInput input = .number x →
      TypedAlike (.text input) (.number x)

theorem Value.TypedAlike.number?_eq {value other : Value} (h : TypedAlike value other) :
    value.number? = other.number? := by
  cases h with
  | same => rfl
  | text h => exact (numberInText?_of_ofInput h).symm
  | number h => exact numberInText?_of_ofInput h

/-! ## Changed values -/

/-- The view with every value changed. -/
def View.map (f : Value → Value) (v : View) : View := { v with stored := fun p => f (v.stored p) }

@[simp] theorem View.rows_map (f : Value → Value) (v : View) : (v.map f).rows = v.rows := rfl

@[simp] theorem View.cols_map (f : Value → Value) (v : View) : (v.map f).cols = v.cols := rfl

theorem View.value_map (hf : f .empty = .empty) (v : View) (p : Position) :
    (v.map f).value p = f (v.value p) := by
  unfold View.value
  rw [apply_ite f, hf]
  rfl

namespace Formula

theorem rangeBlock_map (hf : f .empty = .empty) {token : List Char} (hc : ':' ∈ token) :
    rangeBlock token (v.map f) a = (rangeBlock token v a).map (List.map (List.map f)) := by
  have hvalue : (v.map f).value = fun p => f (v.value p) := funext (View.value_map hf v)
  unfold rangeBlock
  rw [if_pos hc, if_pos hc, hvalue, View.rows_map, View.cols_map]
  by_cases hv : v.rows = 0 ∨ v.cols = 0
  · rw [if_pos hv, if_pos hv]
    rfl
  · rw [if_neg hv, if_neg hv]
    cases rangeRectangle token a v.rows v.cols with
    | error e => rfl
    | ok r => simp only [Except.map, r.map_block]

theorem parameterValues_map (hf : f .empty = .empty) (parameter : List Char) :
    parameterValues (v.map f) a parameter = (parameterValues v a parameter).map (List.map f) := by
  unfold parameterValues
  by_cases hc : ':' ∈ parameter
  · rw [if_pos hc, if_pos hc, rangeBlock_map hf hc]
    cases rangeBlock parameter v a with
    | error e => rfl
    | ok rows => simp only [Except.map, List.map_flatten]
  · rw [if_neg hc, if_neg hc]
    cases (Reference.parseAt? parameter a).bind (·.position? a) with
    | none => rfl
    | some p =>
      by_cases hp : v.Contains p
      · have hp' : (v.map f).Contains p := hp
        simp only [if_pos hp, if_pos hp', View.value_map hf, Except.map, List.map_singleton]
      · have hp' : ¬ (v.map f).Contains p := hp
        simp only [if_neg hp, if_neg hp', Except.map, List.map_nil]

theorem parametersValues_map (hf : f .empty = .empty) (ps : List (List Char)) :
    parametersValues ps (v.map f) a = (parametersValues ps v a).map (List.map f) := by
  induction ps with
  | nil => rfl
  | cons parameter ps ih =>
    rw [parametersValues_cons, parametersValues_cons, parameterValues_map hf, ih]
    cases parameterValues v a parameter with
    | error e => rfl
    | ok values =>
      cases parametersValues ps v a with
      | error e => rfl
      | ok rest => simp only [Except.map, Except.bind, List.map_append]

end Formula

/-! ## Numbers in place of values -/

/-- The number that a value counts as, and nothing if it counts as none. -/
def Value.counted (value : Value) : Value := value.number?.elim .empty .number

theorem Value.number?_counted (value : Value) : value.counted.number? = value.number? := by
  unfold counted
  cases value.number? <;> rfl

/-- The view with the numbers that values count as in their place. -/
def View.counted (v : View) : View := v.map Value.counted

theorem View.value_counted (v : View) (p : Position) : v.counted.value p = (v.value p).counted :=
  v.value_map rfl p

namespace Builtin

theorem numbers_counted (values : List Value) :
    numbers (values.map Value.counted) = numbers values := by
  unfold numbers
  rw [List.filterMap_map]
  exact congrArg (values.filterMap ·) (funext Value.number?_counted)

/-- What an aggregate makes of some values depends on the numbers among them alone. -/
theorem aggregate_congr {name : String} {f : List Value → Float}
    (hf : (named? name).map action = some (.aggregate f)) {values others : List Value}
    (h : numbers values = numbers others) : f values = f others := by
  have hall : ∀ b ∈ all, b.action = .aggregate f → f values = f others := by
    simp only [all, List.mem_cons, List.not_mem_nil, or_false, forall_eq_or_imp, forall_eq,
      Action.aggregate.injEq, reduceCtorEq, false_implies, and_true]
    refine ⟨?_, ?_, ?_, ?_, ?_⟩ <;> rintro rfl
    · simp only [sum, h]
    · simp only [average, sum, count, h]
    · simp only [maximum, h]
    · simp only [minimum, h]
    · simp only [count, h]
  obtain ⟨b, hb, hf⟩ := Option.map_eq_some_iff.mp hf
  exact hall b (List.mem_of_find?_eq_some hb) hf

end Builtin

namespace Formula

/-- Whether a body calls a function that changes the text of a cell. -/
def Body.CallsText : Body → Prop
  | .call name _ => String.ofList name ∈ textNames
  | .arithmetic _ => False

/-- Whether a formula calls a function that changes the text of a cell. -/
def CallsText (formula : String) : Prop := ∃ body ∈ body? formula, body.CallsText

instance : (body : Body) → Decidable body.CallsText
  | .call name _ => inferInstanceAs (Decidable (String.ofList name ∈ textNames))
  | .arithmetic _ => inferInstanceAs (Decidable False)

instance (formula : String) : Decidable (CallsText formula) :=
  inferInstanceAs (Decidable (∃ body ∈ body? formula, body.CallsText))

theorem callAggregate_counted {name : String} {f : List Value → Float}
    (hf : (Builtin.named? name).map Builtin.action = some (.aggregate f)) (ps : List (List Char)) :
    callAggregate f ps v.counted a = callAggregate f ps v a := by
  unfold callAggregate
  rw [View.counted, parametersValues_map rfl]
  cases parametersValues ps v a with
  | error e => rfl
  | ok values =>
    have hvalues := Builtin.aggregate_congr hf (Builtin.numbers_counted values)
    simp only [Except.map, hvalues]

theorem fill_counted (piece : Piece) : piece.fill v.counted a = piece.fill v a := by
  cases piece with
  | char c => rfl
  | reference spelling =>
    simp only [Piece.fill, referencedNumber, View.value_counted, Value.number?_counted]

/-- A formula that calls no text function only looks at the numbers that values count as. -/
theorem evaluate?_counted (h : ¬ CallsText formula) :
    evaluate? formula v.counted a = evaluate? formula v a := by
  unfold evaluate?
  cases hb : body? formula with
  | none => rfl
  | some body =>
    cases body with
    | arithmetic text =>
      simp only [arithmetic, substitute_congr fun piece _ => fill_counted piece]
    | call name args =>
      simp only [call]
      rcases action_cases (String.ofList name) with ⟨-, -, f, hf⟩ | ⟨-, ht, -⟩ | ⟨-, -, hn⟩
      · simp only [hf]
        exact callAggregate_counted hf _
      · exact absurd ⟨_, hb, ht⟩ h
      · simp only [hn]

/-- Two views of one size whose values count as the same numbers. -/
structure CountAlike (v w : View) : Prop where
  rows : v.rows = w.rows
  cols : v.cols = w.cols
  number : ∀ p, (v.value p).number? = (w.value p).number?

theorem evaluate?_of_countAlike (hv : CountAlike v w) (h : ¬ CallsText formula) (a : Position) :
    evaluate? formula v a = evaluate? formula w a := by
  have hsame : AgreeOn (fun _ => True) v.counted w.counted := by
    refine ⟨hv.rows, hv.cols, fun p _ => ?_⟩
    rw [View.value_counted, View.value_counted, Value.counted, Value.counted, hv.number p]
  calc evaluate? formula v a
    _ = evaluate? formula v.counted a := (evaluate?_counted h).symm
    _ = evaluate? formula w.counted a := evaluate?_eq_of_reads (hsame.mono fun _ _ => trivial)
    _ = evaluate? formula w a := evaluate?_counted h

/-! ## Typed numbers -/

/-- Two views of one size with the same values, except that an input may be a text in one of them
and the number that it is taken for in the other. -/
structure TypedAlike (v w : View) : Prop where
  rows : v.rows = w.rows
  cols : v.cols = w.cols
  value : ∀ p, (v.value p).TypedAlike (w.value p)

theorem TypedAlike.countAlike (h : TypedAlike v w) : CountAlike v w :=
  ⟨h.rows, h.cols, fun p => (h.value p).number?_eq⟩

theorem TypedAlike.withValue {value other : Value} (h : value.TypedAlike other) (v : View)
    (p : Position) : TypedAlike (v.withValue p value) (v.withValue p other) where
  rows := rfl
  cols := rfl
  value q := by
    by_cases hq : v.Contains q
    · have hstored : ∀ x, (v.withValue p x).value q = if q = p then x else v.stored q :=
        fun _ => if_pos hq
      rw [hstored, hstored]
      by_cases hp : q = p
      · rwa [if_pos hp, if_pos hp]
      · rw [if_neg hp, if_neg hp]
        exact .same _
    · have hempty : ∀ x, (v.withValue p x).value q = .empty := fun _ => if_neg hq
      rw [hempty, hempty]
      exact .same _

/-- An input that is taken for a number has this number at its start, blanks skipped. So a formula
that calls no text function comes to the same, or to the same error, whether cells hold such inputs
as texts or the numbers that they are taken for. -/
theorem typed_numbers_count_alike :
    (∀ input x, Value.ofInput input = .number x → Value.numberInText? input = some x) ∧
      ∀ v w : View, TypedAlike v w → ∀ formula, ¬ CallsText formula → ∀ a,
        evaluate? formula v a = evaluate? formula w a ∧
          evaluate formula v a = evaluate formula w a := by
  refine ⟨fun _ _ => Value.numberInText?_of_ofInput, fun v w hv formula h a => ?_⟩
  have hsame := evaluate?_of_countAlike hv.countAlike h a
  exact ⟨hsame, by rw [evaluate, evaluate, hsame]⟩

/-- A number with blanks, a sign, a bare point and an exponent, as a number and as a text. A text
function tells them apart. -/
theorem typed_numbers_count_alike_of_threeByThree :
    (Value.ofInput "\t -.5E1\n" = .number (-5) ∧ ¬ CallsText "=a1*2" ∧
        ¬ CallsText "=Average(B9:a1, $A1)") ∧
      Value.numberInText? "\t -.5E1\n" = some (-5) ∧
      evaluate? "=a1*2" (threeByThree.withValue ⟨0, 0⟩ (.number (-5))) .origin =
        evaluate? "=a1*2" (threeByThree.withValue ⟨0, 0⟩ (.text "\t -.5E1\n")) .origin ∧
      evaluate "=Average(B9:a1, $A1)" (threeByThree.withValue ⟨0, 0⟩ (.number (-5))) .origin =
        evaluate "=Average(B9:a1, $A1)"
          (threeByThree.withValue ⟨0, 0⟩ (.text "\t -.5E1\n")) .origin ∧
      evaluate "=TRIM(A1)" (threeByThree.withValue ⟨0, 0⟩ (.number (-5))) .origin ≠
        evaluate "=TRIM(A1)" (threeByThree.withValue ⟨0, 0⟩ (.text "\t -.5E1\n")) .origin := by
  have hinput : Value.ofInput "\t -.5E1\n" = .number (-5) := by decide +kernel
  have harithmetic : ¬ CallsText "=a1*2" := by decide
  have haggregate : ¬ CallsText "=Average(B9:a1, $A1)" := by decide
  have hv : TypedAlike (threeByThree.withValue ⟨0, 0⟩ (.number (-5)))
      (threeByThree.withValue ⟨0, 0⟩ (.text "\t -.5E1\n")) := .withValue (.text hinput) _ _
  obtain ⟨hread, hsame⟩ := typed_numbers_count_alike
  exact ⟨⟨hinput, harithmetic, haggregate⟩, hread _ _ hinput, (hsame _ _ hv _ harithmetic _).1,
    (hsame _ _ hv _ haggregate _).2, by decide +kernel⟩

end Formula

end Spreadsheet
