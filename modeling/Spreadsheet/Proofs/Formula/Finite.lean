import Spreadsheet.Proofs.Formula.Fault

/-!
# Results that are not finite

A cell can hold a number that is not finite, a text can read as one, and sums, products and quotients
of finite numbers can come to one. Arithmetic and aggregates make zero of all these. A text function
does not look at numbers and hands them on, whatever they are (`PassesOn`). So a formula comes to a
number that is not finite exactly if it hands on one from a cell (`not_isFinite_iff_passesOn`), and
in a view without such numbers it never does (`isFinite_evaluate`).
-/

namespace Spreadsheet

def Value.IsFinite : Value → Prop
  | .number x => x.isFinite
  | _ => True

namespace Formula

variable {view : View} {anchor : Position} {formula : String} {x : Float}

/-! ## Arithmetic and aggregates -/

theorem isFinite_arithmetic (text : List Char) (view : View) (anchor : Position) :
    (arithmetic text view anchor).isFinite := by
  have h0 : (0 : Float).isFinite := by decide +kernel
  unfold arithmetic
  split
  · cases h : numberOf? (substitute text view anchor) with
    | none => exact h0
    | some x => exact (Option.filter_eq_some_iff.mp h).2
  · exact h0

theorem exists_of_callAggregate {f : List Value → Float} {parameters : List (List Char)}
    {value : Value} (h : callAggregate f parameters view anchor = .ok value) :
    ∃ x, value = .number x ∧ x.isFinite := by
  unfold callAggregate at h
  cases hp : parametersValues parameters view anchor with
  | error => simp [hp, Except.map] at h
  | ok values =>
    simp only [hp, Except.map, Except.ok.injEq] at h
    refine ⟨_, h.symm, ?_⟩
    split
    · assumption
    · decide +kernel

theorem exists_evaluate?_eq_callAggregate {name : String} {args : List Char}
    (hcall : IsCall formula name args) (hname : name ∈ aggregateNames) (view : View)
    (anchor : Position) :
    ∃ f, evaluate? formula view anchor = callAggregate f (parameters args) view anchor := by
  rw [evaluate?_of_isCall hcall, call, String.ofList_toList]
  rcases action_cases name with ⟨-, -, f, hf⟩ | ⟨ha, -⟩ | ⟨ha, -⟩
  · rw [hf]
    exact ⟨f, rfl⟩
  · exact absurd hname ha
  · exact absurd hname ha

theorem not_empty_of_callAggregate {f : List Value → Float} {parameters : List (List Char)}
    {e : Error} (h : callAggregate f parameters view anchor = .error e) :
    ¬ (view.rows = 0 ∨ view.cols = 0) := by
  have hmap : parameters.mapM (parameterValues view anchor) = .error e := by
    unfold callAggregate parametersValues at h
    cases hm : parameters.mapM (parameterValues view anchor) <;>
      simp only [hm, Except.map, Except.error.injEq, reduceCtorEq] at h
    rw [h]
  obtain ⟨-, parameter, -, -, -, hp⟩ := mapM_eq_error_iff.mp hmap
  exact not_empty_of_parameterValues_eq_error hp

/-! ## Text functions -/

theorem referencedValue_eq_number_iff {r : Reference} :
    referencedValue r view anchor = .number x ↔
      ∃ p, r.position? anchor = some p ∧ view.value p = .number x := by
  unfold referencedValue
  cases r.position? anchor <;> simp

theorem callText_eq_number_iff {name : List Char} {f : List Char → List Char}
    {parameters : List (List Char)} :
    callText name f parameters view anchor = .ok (.number x) ↔
      ∃ token r, parameters = [token] ∧ Reference.parseAt? token anchor = some r ∧
        referencedValue r view anchor = .number x := by
  constructor
  · intro h
    unfold callText at h
    split at h
    · rename_i token
      split at h
      · rename_i r hr
        refine ⟨token, r, rfl, hr, ?_⟩
        -- A text makes a text, and any other value is the result.
        split at h
        · cases h
        · exact Except.ok.inj h
      · cases h
    · cases h
  · rintro ⟨token, r, rfl, hr, hv⟩
    simp only [callText, hr, hv]

/-- Whether a formula calls a text function of one reference, to a cell that holds the number. -/
def PassesOn (formula : String) (view : View) (anchor : Position) (x : Float) : Prop :=
  ∃ name args token r p, IsCall formula name args ∧ name ∈ textNames ∧ parameters args = [token] ∧
    Reference.parseAt? token anchor = some r ∧ r.position? anchor = some p ∧
      view.value p = .number x

/-! ## Formulas -/

theorem evaluate_eq_number_iff :
    evaluate formula view anchor = .number x ↔
      evaluate? formula view anchor = .ok (.number x) := by
  unfold evaluate
  cases evaluate? formula view anchor <;> simp

theorem evaluate_of_passesOn (h : PassesOn formula view anchor x) :
    evaluate formula view anchor = .number x := by
  obtain ⟨name, args, token, r, p, hcall, hname, hargs, hr, hp, hv⟩ := h
  rw [evaluate_eq_number_iff, evaluate?_of_isCall hcall, call, String.ofList_toList]
  rcases action_cases name with ⟨-, ht, -⟩ | ⟨-, -, f, hf⟩ | ⟨-, ht, -⟩
  · exact absurd hname ht
  · rw [hf]
    exact callText_eq_number_iff.mpr
      ⟨token, r, hargs, hr, referencedValue_eq_number_iff.mpr ⟨p, hp, hv⟩⟩
  · exact absurd hname ht

theorem passesOn_of_evaluate (h : evaluate formula view anchor = .number x)
    (hx : x.isFinite = false) : PassesOn formula view anchor x := by
  have finite : ∀ y : Float, y.isFinite → x ≠ y := by
    rintro y hy rfl
    rw [hx] at hy
    cases hy
  rw [evaluate_eq_number_iff] at h
  unfold evaluate? at h
  split at h
  · have hl := Except.ok.inj h
    unfold literal at hl
    split at hl <;> cases hl
  · exact absurd (Value.number.inj (Except.ok.inj h)).symm
      (finite _ (isFinite_arithmetic _ view anchor))
  · rename_i name args hbody
    rw [← String.toList_ofList (l := name), body?_eq_call_iff] at hbody
    unfold call at h
    rcases action_cases (String.ofList name) with ⟨-, -, f, hf⟩ | ⟨-, ht, f, hf⟩ | ⟨-, -, hn⟩
    · rw [hf] at h
      obtain ⟨y, hy, hfinite⟩ := exists_of_callAggregate h
      exact absurd (Value.number.inj hy) (finite y hfinite)
    · rw [hf] at h
      obtain ⟨token, r, hargs, hr, hv⟩ := callText_eq_number_iff.mp h
      obtain ⟨p, hp, hv⟩ := referencedValue_eq_number_iff.mp hv
      exact ⟨_, args, token, r, p, hbody, ht, hargs, hr, hp, hv⟩
    · rw [hn] at h
      cases h

/-- A formula has no infinite value in a view without infinite values. -/
theorem isFinite_evaluate (hv : ∀ p, (view.stored p).IsFinite) (formula : String) :
    (evaluate formula view anchor).IsFinite := by
  cases h : evaluate formula view anchor with
  | empty => trivial
  | text s => trivial
  | number x =>
    by_contra hx
    obtain ⟨-, -, -, -, p, -, -, -, -, -, hp⟩ :=
      passesOn_of_evaluate h (Bool.eq_false_iff.mpr hx)
    unfold View.value at hp
    split at hp
    · have hstored := hv p
      rw [hp] at hstored
      exact hx hstored
    · cases hp

/-- A formula comes to a number that is not finite if and only if it is a text function of one
reference and the cell holds that number. What arithmetic comes to is finite, and what an aggregate
comes to as well, unless one of its ranges is none. -/
theorem not_isFinite_iff_passesOn (formula : String) (view : View) (anchor : Position) :
    (∀ x, x.isFinite = false →
      (evaluate formula view anchor = .number x ↔ PassesOn formula view anchor x)) ∧
    (∀ text, body? formula = some (.arithmetic text) →
      ∃ x, evaluate? formula view anchor = .ok (.number x) ∧ x.isFinite) ∧
    ∀ name args, IsCall formula name args → name ∈ aggregateNames →
      (∃ x, evaluate? formula view anchor = .ok (.number x) ∧ x.isFinite) ∨
        ∃ token, FirstBadRange (parameters args) token ∧
          evaluate? formula view anchor = .error (.invalidRange (String.ofList token)) := by
  refine ⟨fun x hx => ⟨fun h => passesOn_of_evaluate h hx, evaluate_of_passesOn⟩, ?_, ?_⟩
  · intro text hbody
    refine ⟨_, ?_, isFinite_arithmetic text view anchor⟩
    unfold evaluate?
    rw [hbody]
  · intro name args hcall hname
    obtain ⟨f, hf⟩ := exists_evaluate?_eq_callAggregate hcall hname view anchor
    rw [hf]
    cases h : callAggregate f (parameters args) view anchor with
    | ok value =>
      obtain ⟨x, rfl, hx⟩ := exists_of_callAggregate h
      exact .inl ⟨x, rfl, hx⟩
    | error e =>
      have hv := not_empty_of_callAggregate h
      obtain ⟨token, hfirst, rfl⟩ := (callAggregate_eq_error_iff hv).mp h
      exact .inr ⟨token, hfirst, rfl⟩

/-- A view with an infinite number, one that is none, a text that reads as an infinite number, and a
large number. -/
def unbounded : View := ⟨2, 2, fun p =>
  if p = ⟨0, 0⟩ then .number (1 / 0) else if p = ⟨0, 1⟩ then .number (0 / 0)
  else if p = ⟨1, 0⟩ then .text "-1e999 apples" else .number 1e308⟩

/-- Infinities that are added and cancel, and an infinite number in a cell that is handed on. -/
theorem not_isFinite_iff_passesOn_of_unbounded :
    ((1 / 0 : Float).isFinite = false ∧
        body? "=A2*0+B2*9-1e+999" = some (.arithmetic "A2*0+B2*9-1E+999".toList) ∧
        IsCall "=average(A1:B2, b2)" "AVERAGE" "A1:B2, B2".toList ∧ "AVERAGE" ∈ aggregateNames) ∧
      evaluate "=trim( $a1 )" unbounded .origin = .number (1 / 0) ∧
      (∃ x, evaluate? "=A2*0+B2*9-1e+999" unbounded .origin = .ok (.number x) ∧ x.isFinite) ∧
      ((∃ x, evaluate? "=average(A1:B2, b2)" unbounded .origin = .ok (.number x) ∧ x.isFinite) ∨
        ∃ token, FirstBadRange (parameters "A1:B2, B2".toList) token ∧
          evaluate? "=average(A1:B2, b2)" unbounded .origin =
            .error (.invalidRange (String.ofList token))) := by
  have hx : (1 / 0 : Float).isFinite = false := by decide +kernel
  have hbody : body? "=A2*0+B2*9-1e+999" = some (.arithmetic "A2*0+B2*9-1E+999".toList) := by
    decide +kernel
  have hcall : IsCall "=average(A1:B2, b2)" "AVERAGE" "A1:B2, B2".toList :=
    body?_eq_call_iff.mp (by decide +kernel)
  have hname : "AVERAGE" ∈ aggregateNames := by decide
  have htrim : IsCall "=trim( $a1 )" "TRIM" " $A1 ".toList :=
    body?_eq_call_iff.mp (by decide +kernel)
  refine ⟨⟨hx, hbody, hcall, hname⟩, ?_, ?_, ?_⟩
  · exact ((not_isFinite_iff_passesOn _ unbounded .origin).1 _ hx).mpr
      ⟨"TRIM", _, "$A1".toList, ⟨0, 0, false, true⟩, ⟨0, 0⟩, htrim, by decide, by decide +kernel,
        by decide +kernel, by decide +kernel, by decide +kernel⟩
  · exact (not_isFinite_iff_passesOn _ unbounded .origin).2.1 _ hbody
  · exact (not_isFinite_iff_passesOn _ unbounded .origin).2.2 _ _ hcall hname

end Formula

end Spreadsheet
