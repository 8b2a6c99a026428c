import Spreadsheet.Proofs.Address.Rectangle
import Spreadsheet.Proofs.Address.Spelling
import Spreadsheet.Proofs.Formula.Congruence

/-!
# What a formula reads

`Formula.Reads formula anchor rows cols p` says that the formula, in the cell at the anchor of a
sheet with that many rows and columns, names the position `p` of the sheet: by a parameter that is a
reference, by a parameter that is a range, or by a reference in arithmetic. It speaks of the text
alone. The value of a formula depends on nothing but the size of the sheet and the values of the
positions that the formula reads (`evaluate_eq_of_reads`), so a cell that it does not read can be
changed (`evaluation_local`).

Less than the same size is enough for a parameter: `SameReads` says what it has to find on two views
to contribute the same to both.
-/

namespace Spreadsheet

/-- The view with another value stored at a position. -/
def View.withValue (v : View) (p : Position) (x : Value) : View :=
  { v with stored := fun q => if q = p then x else v.stored q }

namespace Formula

/-- Whether a parameter of a function names a position: as a reference, or by a range once its
corners are moved into the grid. -/
def ParameterReads (parameter : List Char) (anchor : Position) (rows cols : Nat) (p : Position) :
    Prop :=
  if ':' ∈ parameter then
    ∃ r ∈ (rangeRectangle parameter anchor rows cols).toOption, r.Contains p
  else (Reference.parseAt? parameter anchor).bind (·.position? anchor) = some p

/-- Whether a piece of an arithmetic text is a reference to a position. -/
def Piece.Reads (anchor p : Position) : Piece → Prop
  | .char _ => False
  | .reference spelling =>
    ((Reference.ofSpelling? spelling).map (·.relativeTo anchor)).bind (·.position? anchor) = some p

/-- Whether the body of a formula names a position. -/
def Body.Reads (anchor : Position) (rows cols : Nat) (p : Position) : Body → Prop
  | .call _ args => ∃ parameter ∈ parameters args, ParameterReads parameter anchor rows cols p
  | .arithmetic text => ∃ piece ∈ pieces text, piece.Reads anchor p

/-- Whether a formula in the cell at an anchor names a position of the grid. -/
def Reads (formula : String) (anchor : Position) (rows cols : Nat) (p : Position) : Prop :=
  (p.row < rows ∧ p.col < cols) ∧ ∃ body ∈ body? formula, body.Reads anchor rows cols p

section Decidable

variable (anchor : Position) (rows cols : Nat) (p : Position)

instance (parameter : List Char) : Decidable (ParameterReads parameter anchor rows cols p) :=
  inferInstanceAs (Decidable (if ':' ∈ parameter then
    ∃ r ∈ (rangeRectangle parameter anchor rows cols).toOption, r.Contains p
    else _ = some p))

instance : (piece : Piece) → Decidable (piece.Reads anchor p)
  | .char _ => inferInstanceAs (Decidable False)
  | .reference _ => inferInstanceAs (Decidable (_ = some p))

instance : (body : Body) → Decidable (body.Reads anchor rows cols p)
  | .call _ args => inferInstanceAs (Decidable (∃ parameter ∈ parameters args, ParameterReads ..))
  | .arithmetic text => inferInstanceAs (Decidable (∃ piece ∈ pieces text, Piece.Reads ..))

instance (formula : String) : Decidable (Reads formula anchor rows cols p) :=
  inferInstanceAs (Decidable ((_ < _ ∧ _ < _) ∧ ∃ body ∈ body? formula, Body.Reads ..))

end Decidable

/-! ## Views that agree -/

/-- Two views of one size with the same values at some positions. -/
structure AgreeOn (P : Position → Prop) (v w : View) : Prop where
  rows : v.rows = w.rows
  cols : v.cols = w.cols
  value : ∀ p, P p → v.value p = w.value p

variable {P : Position → Prop} {v w : View} {anchor : Position}

theorem value_eq_empty {p : Position} (h : ¬ v.Contains p) : v.value p = .empty :=
  if_neg h

/-- Views that agree on what lies inside agree on the rest as well. -/
theorem AgreeOn.of_inside (rows : v.rows = w.rows) (cols : v.cols = w.cols)
    (value : ∀ p, v.Contains p → P p → v.value p = w.value p) : AgreeOn P v w where
  rows := rows
  cols := cols
  value p hp := by
    by_cases h : v.Contains p
    · exact value p h hp
    · have h' : ¬ w.Contains p := by
        unfold View.Contains at h ⊢
        rwa [← rows, ← cols]
      rw [value_eq_empty h, value_eq_empty h']

theorem AgreeOn.mono {Q : Position → Prop} (h : AgreeOn P v w) (hQ : ∀ p, Q p → P p) :
    AgreeOn Q v w where
  rows := h.rows
  cols := h.cols
  value p hp := h.value p (hQ p hp)

theorem AgreeOn.withValue {p : Position} (hp : ¬ P p) (x : Value) :
    AgreeOn P v (v.withValue p x) where
  rows := rfl
  cols := rfl
  value q hq := by
    have hne : q ≠ p := fun h => hp (h ▸ hq)
    exact if_congr Iff.rfl (if_neg hne).symm rfl

theorem AgreeOn.contains_iff (h : AgreeOn P v w) (p : Position) : v.Contains p ↔ w.Contains p := by
  unfold View.Contains
  rw [h.rows, h.cols]

/-! ## Parameters -/

theorem referencedValue_congr {r : Reference}
    (h : ∀ p, r.position? anchor = some p → v.value p = w.value p) :
    referencedValue r v anchor = referencedValue r w anchor := by
  unfold referencedValue
  split
  · rename_i p hp
    exact h p hp
  · rfl

/-- A range denotes a rectangle with its first corner before its last one. -/
theorem rangeRectangle_ordered {token : List Char} {rows cols : Nat} {r : Rectangle}
    (h : rangeRectangle token anchor rows cols = .ok r) (axis : Axis) :
    r.first.index axis ≤ r.last.index axis := by
  unfold rangeRectangle at h
  split at h
  · simp only [Except.ok.injEq] at h
    subst h
    cases axis <;> simp only [Rectangle.ofCorners, Position.index] <;> omega
  · cases h

theorem nearestIndex_lt {length : Nat} (h : 1 ≤ length) (x : Int) :
    nearestIndex x length < length := by
  unfold nearestIndex
  omega

/-- The rectangle that a range denotes lies in the grid. -/
theorem rangeRectangle_inside {token : List Char} {rows cols : Nat} {r : Rectangle}
    (hr : 1 ≤ rows) (hc : 1 ≤ cols) (h : rangeRectangle token anchor rows cols = .ok r) :
    r.last.row < rows ∧ r.last.col < cols := by
  unfold rangeRectangle at h
  split at h
  · simp only [Except.ok.injEq] at h
    subst h
    exact ⟨Nat.max_lt.mpr ⟨nearestIndex_lt hr _, nearestIndex_lt hr _⟩,
      Nat.max_lt.mpr ⟨nearestIndex_lt hc _, nearestIndex_lt hc _⟩⟩
  · cases h

/-- What a parameter has to find on two views to contribute the same. Their sizes may differ, as
long as a range denotes the same rectangle. -/
structure SameReads (parameter : List Char) (anchor : Position) (v w : View) : Prop where
  empty_iff : (v.rows = 0 ∨ v.cols = 0) ↔ (w.rows = 0 ∨ w.cols = 0)
  rectangle : ':' ∈ parameter →
    rangeRectangle parameter anchor v.rows v.cols = rangeRectangle parameter anchor w.rows w.cols
  contains_iff : ∀ p, ParameterReads parameter anchor v.rows v.cols p →
    (v.Contains p ↔ w.Contains p)
  value : ∀ p, ParameterReads parameter anchor v.rows v.cols p → v.value p = w.value p

namespace SameReads

variable {parameter : List Char}

theorem rangeBlock (h : SameReads parameter anchor v w) (hc : ':' ∈ parameter) :
    rangeBlock parameter v anchor = rangeBlock parameter w anchor := by
  unfold Formula.rangeBlock
  rw [if_pos hc, if_pos hc, ← h.rectangle hc]
  refine if_congr h.empty_iff rfl ?_
  cases hr : rangeRectangle parameter anchor v.rows v.cols with
  | error e => rfl
  | ok r =>
    have hb : r.block v.value = r.block w.value := by
      refine Rectangle.block_congr (rangeRectangle_ordered hr) fun p hp => h.value p ?_
      unfold ParameterReads
      rw [if_pos hc]
      exact ⟨r, by rw [hr]; rfl, hp⟩
    simp only [Except.map, hb]

theorem parameterValues (h : SameReads parameter anchor v w) :
    parameterValues v anchor parameter = parameterValues w anchor parameter := by
  unfold Formula.parameterValues
  by_cases hc : ':' ∈ parameter
  · rw [if_pos hc, if_pos hc, h.rangeBlock hc]
  · rw [if_neg hc, if_neg hc]
    split
    · rename_i p hp
      have hr : ParameterReads parameter anchor v.rows v.cols p := by
        unfold ParameterReads
        rwa [if_neg hc]
      simp only [h.value p hr, h.contains_iff p hr]
    · rfl

theorem sameParameter (h : SameReads parameter anchor v w) :
    SameParameter v w anchor anchor parameter where
  values := h.parameterValues
  referenced := by
    cases hr : Reference.parseAt? parameter anchor with
    | none => rfl
    | some r =>
      have hc := Reference.colon_notMem_of_parseAt? hr
      refine congrArg some (referencedValue_congr fun p hp => h.value p ?_)
      unfold ParameterReads
      rw [if_neg hc, hr]
      exact hp

end SameReads

theorem AgreeOn.sameReads {parameter : List Char}
    (h : AgreeOn (ParameterReads parameter anchor v.rows v.cols) v w) :
    SameReads parameter anchor v w where
  empty_iff := by rw [h.rows, h.cols]
  rectangle _ := by rw [h.rows, h.cols]
  contains_iff p _ := h.contains_iff p
  value := h.value

/-! ## Arithmetic -/

theorem fill_congr {piece : Piece} (h : ∀ p, piece.Reads anchor p → v.value p = w.value p) :
    piece.fill v anchor = piece.fill w anchor := by
  cases piece with
  | char c => rfl
  | reference spelling =>
    have hn : referencedNumber v anchor spelling = referencedNumber w anchor spelling := by
      unfold referencedNumber
      cases hp : ((Reference.ofSpelling? spelling).map (·.relativeTo anchor)).bind
          (·.position? anchor) with
      | none => rfl
      | some p => simp only [Option.bind_some, h p hp]
    simp only [Piece.fill, hn]

/-! ## Formulas -/

theorem same_of_reads {formula : String} (h : AgreeOn (Reads formula anchor v.rows v.cols) v w) :
    ∀ body ∈ body? formula, body.Same v w anchor anchor := by
  intro body hb
  have hr : AgreeOn (body.Reads anchor v.rows v.cols) v w :=
    .of_inside h.rows h.cols fun p hp hr => h.value p ⟨hp, body, hb, hr⟩
  cases body with
  | call name args =>
    intro parameter hm
    exact (hr.mono fun p hp => ⟨parameter, hm, hp⟩).sameReads.sameParameter
  | arithmetic text =>
    intro piece hm
    exact fill_congr fun p hp => hr.value p ⟨piece, hm, hp⟩

/-- What a formula comes to depends on the positions it reads, and on no others. -/
theorem evaluate?_eq_of_reads {formula : String}
    (h : AgreeOn (Reads formula anchor v.rows v.cols) v w) :
    evaluate? formula v anchor = evaluate? formula w anchor :=
  evaluate?_congr (same_of_reads h)

theorem evaluate_eq_of_reads {formula : String}
    (h : AgreeOn (Reads formula anchor v.rows v.cols) v w) :
    evaluate formula v anchor = evaluate formula w anchor :=
  evaluate_congr (same_of_reads h)

/-- What a formula comes to is the same on every view of the size that has the same values where the
formula reads, and stays when a position is changed that it does not read. -/
theorem evaluation_local (formula : String) (anchor : Position) (v : View) :
    (∀ w, AgreeOn (Reads formula anchor v.rows v.cols) v w →
      evaluate formula w anchor = evaluate formula v anchor ∧
        evaluate? formula w anchor = evaluate? formula v anchor) ∧
    ∀ p x, ¬ Reads formula anchor v.rows v.cols p →
      evaluate formula (v.withValue p x) anchor = evaluate formula v anchor ∧
        evaluate? formula (v.withValue p x) anchor = evaluate? formula v anchor := by
  have hw : ∀ w, AgreeOn (Reads formula anchor v.rows v.cols) v w →
      evaluate formula w anchor = evaluate formula v anchor ∧
        evaluate? formula w anchor = evaluate? formula v anchor :=
    fun w h => ⟨(evaluate_eq_of_reads h).symm, (evaluate?_eq_of_reads h).symm⟩
  exact ⟨hw, fun p x hp => hw _ (.withValue hp x)⟩

/-- A view of three rows and three columns. -/
def threeByThree : View := ⟨3, 3, fun p => .number (Float.ofNat (3 * p.row + p.col))⟩

/-- A range that is written backwards and leaves the grid, a reference outside it and one that is
none, none of which reads the first cell or the last one of the second row. -/
theorem evaluation_local_of_threeByThree :
    (¬ Reads "=SUM(B9:A2, $C1, Z1, x)" ⟨8, 8⟩ 3 3 ⟨0, 0⟩ ∧
        ¬ Reads "=SUM(B9:A2, $C1, Z1, x)" ⟨8, 8⟩ 3 3 ⟨1, 2⟩) ∧
      evaluate "=SUM(B9:A2, $C1, Z1, x)" (threeByThree.withValue ⟨0, 0⟩ (.text "7")) ⟨8, 8⟩ =
        evaluate "=SUM(B9:A2, $C1, Z1, x)" threeByThree ⟨8, 8⟩ ∧
      evaluate? "=SUM(B9:A2, $C1, Z1, x)" (threeByThree.withValue ⟨1, 2⟩ .empty) ⟨8, 8⟩ =
        evaluate? "=SUM(B9:A2, $C1, Z1, x)" threeByThree ⟨8, 8⟩ := by
  have h : ¬ Reads "=SUM(B9:A2, $C1, Z1, x)" ⟨8, 8⟩ 3 3 ⟨0, 0⟩ ∧
      ¬ Reads "=SUM(B9:A2, $C1, Z1, x)" ⟨8, 8⟩ 3 3 ⟨1, 2⟩ := by decide +kernel
  exact ⟨h, ((evaluation_local _ ⟨8, 8⟩ threeByThree).2 ⟨0, 0⟩ _ h.1).1,
    ((evaluation_local _ ⟨8, 8⟩ threeByThree).1 _ (.withValue h.2 _)).2⟩

end Formula

end Spreadsheet
