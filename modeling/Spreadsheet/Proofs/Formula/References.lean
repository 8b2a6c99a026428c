import Spreadsheet.Proofs.Formula.Anchor
import Spreadsheet.Proofs.Formula.Reads

/-!
# The references of a formula

`Formula.references` lists the references that a formula is written with: the parameters that are
references, both corners of the ranges, the references in arithmetic. When all of them name rows
before some row, nothing from there on is read (`index_lt_of_parameterReads`, `index_lt_of_reads`),
and the formula comes to the same on any two views that are the same up to there, however many rows
they have. Likewise for columns (`evaluate_eq_of_agreeBefore`).

A corner of a range is moved into the grid first, so the length of the axis is seen by every range.
It makes no difference to a corner that lies inside.
-/

namespace Spreadsheet

/-! ## Axes of references and views -/

namespace Reference

/-- The coordinate of a reference on an axis. -/
def along (r : Reference) : Axis → Int
  | .row => r.row
  | .column => r.col

/-- Whether a reference names one of the first `n` rows or columns. -/
def Before (axis : Axis) (n : Nat) (r : Reference) : Prop := 0 ≤ r.along axis ∧ r.along axis < n

instance (axis : Axis) (n : Nat) (r : Reference) : Decidable (r.Before axis n) :=
  inferInstanceAs (Decidable (_ ∧ _))

variable {r : Reference} {a p : Position}

theorem relativeTo_origin (r : Reference) : r.relativeTo .origin = r := by
  obtain ⟨row, col, rowAbsolute, colAbsolute⟩ := r
  have h : coordinate 0 = 0 := rfl
  simp only [relativeTo, Position.origin, h, Int.sub_zero, ite_self]

/-- A position has the coordinates of the reference that means it. -/
theorem index_of_position? (hr : r.InBounds) (h : (r.relativeTo a).position? a = some p)
    (axis : Axis) : (p.index axis : Int) = r.along axis := by
  unfold position? at h
  rw [rowAt_relativeTo a hr, colAt_relativeTo a hr] at h
  split at h
  · rename_i hpos
    obtain rfl := Option.some.inj h
    cases axis
    · exact Int.toNat_of_nonneg hpos.1
    · exact Int.toNat_of_nonneg hpos.2
  · cases h

theorem index_lt_of_position? {axis : Axis} {n : Nat} (hr : r.InBounds) (hb : r.Before axis n)
    (h : (r.relativeTo a).position? a = some p) : p.index axis < n := by
  have := index_of_position? hr h axis
  have := hb.2
  omega

end Reference

theorem Position.ext_along {p q : Position} (h : ∀ axis, p.index axis = q.index axis) : p = q := by
  obtain ⟨row, col⟩ := p
  obtain ⟨row', col'⟩ := q
  obtain rfl : row = row' := h .row
  obtain rfl : col = col' := h .column
  rfl

namespace View

/-- The number of rows or columns of a view. -/
def length (v : View) : Axis → Nat
  | .row => v.rows
  | .column => v.cols

theorem contains_iff {v : View} {p : Position} :
    v.Contains p ↔ ∀ axis, p.index axis < v.length axis := by
  constructor
  · rintro ⟨hr, hc⟩ axis
    cases axis
    · exact hr
    · exact hc
  · intro h
    exact ⟨h .row, h .column⟩

end View

namespace Formula

open Reference

/-! ## References -/

/-- The references that a parameter is made of. What is neither a reference nor a range has none. -/
def parameterReferences (parameter : List Char) : List Reference :=
  if ':' ∈ parameter then
    match rangeCorners? parameter .origin with
    | some (first, last) => [first, last]
    | none => []
  else (parse? parameter).toList

/-- The reference that a piece of an arithmetic text denotes. -/
def Piece.references : Piece → List Reference
  | .char _ => []
  | .reference spelling => (ofSpelling? spelling).toList

/-- The references in the body of a formula. -/
def Body.references : Body → List Reference
  | .call _ args => (parameters args).flatMap parameterReferences
  | .arithmetic text => (pieces text).flatMap Piece.references

/-- The references in a formula. -/
def references (formula : String) : List Reference :=
  match body? formula with
  | some body => body.references
  | none => []

theorem rangeCorners?_eq_map (a : Position) (token : List Char) :
    rangeCorners? token a = (rangeCorners? token .origin).map fun corners =>
      (corners.1.relativeTo a, corners.2.relativeTo a) := by
  simp only [rangeCorners?_eq, relativeTo_origin]
  cases splitRange? token with
  | none => rfl
  | some sides =>
    cases hf : parse? (Text.trim sides.1) <;> cases hl : parse? (Text.trim sides.2) <;>
      simp [hf, hl]

theorem inBounds_of_rangeCorners? {token : List Char} {first last : Reference}
    (h : rangeCorners? token .origin = some (first, last)) : first.InBounds ∧ last.InBounds := by
  simp only [rangeCorners?_eq, relativeTo_origin, Option.bind_eq_some_iff, Option.map_eq_some_iff,
    Prod.mk.injEq] at h
  obtain ⟨sides, -, first, hf, last, hl, rfl, rfl⟩ := h
  exact ⟨inBounds_of_parse? hf, inBounds_of_parse? hl⟩

/-! ## Views that agree before an index -/

/-- Two views that store the same before an index of an axis, which lies inside both, and have one
length along the other axis. -/
structure AgreeBefore (axis : Axis) (n : Nat) (v w : View) : Prop where
  length_pos : ∀ b, 0 < v.length b ∧ 0 < w.length b
  length_le : n ≤ v.length axis ∧ n ≤ w.length axis
  length_eq : ∀ b, b ≠ axis → v.length b = w.length b
  stored : ∀ p : Position, p.index axis < n → v.stored p = w.stored p

namespace AgreeBefore

variable {axis : Axis} {n : Nat} {v w : View} {p : Position}

theorem not_empty (h : AgreeBefore axis n v w) :
    ¬ (v.rows = 0 ∨ v.cols = 0) ∧ ¬ (w.rows = 0 ∨ w.cols = 0) := by
  have hrow := h.length_pos .row
  have hcol := h.length_pos .column
  simp only [View.length] at hrow hcol
  omega

theorem contains_iff (h : AgreeBefore axis n v w) (hp : p.index axis < n) :
    v.Contains p ↔ w.Contains p := by
  rw [View.contains_iff, View.contains_iff]
  refine forall_congr' fun b => ?_
  by_cases hb : b = axis
  · subst hb
    have := h.length_le
    omega
  · rw [h.length_eq b hb]

theorem value (h : AgreeBefore axis n v w) (hp : p.index axis < n) : v.value p = w.value p :=
  if_congr (h.contains_iff hp) (h.stored p hp) rfl

end AgreeBefore

variable {axis : Axis} {n : Nat} {v w : View} {a : Position} {r : Reference}

/-! ## Ranges -/

theorem index_nearestPosition (hr : r.InBounds) (v : View) (b : Axis) :
    (nearestPosition (r.relativeTo a) a v.rows v.cols).index b =
      nearestIndex (r.along b) (v.length b) := by
  cases b
  · exact congrArg (nearestIndex · v.rows) (rowAt_relativeTo a hr)
  · exact congrArg (nearestIndex · v.cols) (colAt_relativeTo a hr)

theorem nearestIndex_of_lt {x : Int} {length : Nat} (hx : 0 ≤ x ∧ x < n) (hn : n ≤ length) :
    nearestIndex x length = x.toNat := by
  unfold nearestIndex
  omega

theorem index_nearestPosition_lt (hr : r.InBounds) (hb : r.Before axis n)
    (hn : n ≤ v.length axis) :
    (nearestPosition (r.relativeTo a) a v.rows v.cols).index axis < n := by
  rw [index_nearestPosition hr, nearestIndex_of_lt hb hn]
  exact (Int.toNat_lt hb.1).mpr hb.2

theorem nearestPosition_eq_of_agreeBefore (h : AgreeBefore axis n v w) (hr : r.InBounds)
    (hb : r.Before axis n) :
    nearestPosition (r.relativeTo a) a v.rows v.cols =
      nearestPosition (r.relativeTo a) a w.rows w.cols := by
  -- Along the axis the corner stays where it is; along the other one both lengths are the same.
  refine Position.ext_along fun b => ?_
  rw [index_nearestPosition hr, index_nearestPosition hr]
  by_cases hba : b = axis
  · subst hba
    rw [nearestIndex_of_lt hb h.length_le.1, nearestIndex_of_lt hb h.length_le.2]
  · rw [h.length_eq b hba]

theorem index_lt_of_contains_ofCorners {p q s : Position} (hp : p.index axis < n)
    (hq : q.index axis < n) (hs : (Rectangle.ofCorners p q).Contains s) : s.index axis < n := by
  obtain ⟨⟨-, hrow⟩, -, hcol⟩ := hs
  cases axis
  · exact Nat.lt_of_le_of_lt hrow (Nat.max_lt.mpr ⟨hp, hq⟩)
  · exact Nat.lt_of_le_of_lt hcol (Nat.max_lt.mpr ⟨hp, hq⟩)

section Parameters

variable {parameter : List Char}

theorem corners_before (hc : ':' ∈ parameter)
    (hb : ∀ r ∈ parameterReferences parameter, r.Before axis n) {first last : Reference}
    (hk : rangeCorners? parameter .origin = some (first, last)) :
    first.Before axis n ∧ last.Before axis n := by
  unfold parameterReferences at hb
  rw [if_pos hc, hk] at hb
  exact ⟨hb first (.head _), hb last (.tail _ (.head _))⟩

theorem rangeRectangle_eq_of_agreeBefore (h : AgreeBefore axis n v w) (hc : ':' ∈ parameter)
    (hb : ∀ r ∈ parameterReferences parameter, r.Before axis n) :
    rangeRectangle parameter a v.rows v.cols = rangeRectangle parameter a w.rows w.cols := by
  unfold rangeRectangle
  rw [rangeCorners?_eq_map]
  cases hk : rangeCorners? parameter .origin with
  | none => rfl
  | some corners =>
    obtain ⟨hf, hl⟩ := inBounds_of_rangeCorners? hk
    obtain ⟨hbf, hbl⟩ := corners_before hc hb hk
    simp only [Option.map_some, nearestPosition_eq_of_agreeBefore h hf hbf,
      nearestPosition_eq_of_agreeBefore h hl hbl]

/-- A parameter whose references all stand before an index reads nothing from there on. -/
theorem index_lt_of_parameterReads (hb : ∀ r ∈ parameterReferences parameter, r.Before axis n)
    (hn : n ≤ v.length axis) {p : Position}
    (hp : ParameterReads parameter a v.rows v.cols p) : p.index axis < n := by
  unfold ParameterReads at hp
  by_cases hc : ':' ∈ parameter
  · rw [if_pos hc] at hp
    obtain ⟨rectangle, hr, hp⟩ := hp
    unfold rangeRectangle at hr
    rw [rangeCorners?_eq_map] at hr
    cases hk : rangeCorners? parameter .origin with
    | none => simp [hk, Except.toOption] at hr
    | some corners =>
      obtain ⟨hf, hl⟩ := inBounds_of_rangeCorners? hk
      obtain ⟨hbf, hbl⟩ := corners_before hc hb hk
      simp only [hk, Option.map_some, Except.toOption, Option.mem_def, Option.some.injEq] at hr
      subst hr
      exact index_lt_of_contains_ofCorners (index_nearestPosition_lt hf hbf hn)
        (index_nearestPosition_lt hl hbl hn) hp
  · rw [if_neg hc] at hp
    unfold parameterReferences at hb
    rw [if_neg hc] at hb
    obtain ⟨_, ha, hp⟩ := Option.bind_eq_some_iff.mp hp
    obtain ⟨r, hr, rfl⟩ := Option.map_eq_some_iff.mp ha
    rw [hr] at hb
    exact index_lt_of_position? (inBounds_of_parse? hr) (hb r (.head _)) hp

theorem sameReads_of_agreeBefore (h : AgreeBefore axis n v w)
    (hb : ∀ r ∈ parameterReferences parameter, r.Before axis n) :
    SameReads parameter a v w where
  empty_iff := iff_of_false h.not_empty.1 h.not_empty.2
  rectangle hc := rangeRectangle_eq_of_agreeBefore h hc hb
  contains_iff _ hp := h.contains_iff (index_lt_of_parameterReads hb h.length_le.1 hp)
  value _ hp := h.value (index_lt_of_parameterReads hb h.length_le.1 hp)

end Parameters

/-! ## Arithmetic -/

theorem index_lt_of_reads {piece : Piece} (hb : ∀ r ∈ piece.references, r.Before axis n)
    {p : Position} (hp : piece.Reads a p) : p.index axis < n := by
  cases piece with
  | char c => exact hp.elim
  | reference spelling =>
    obtain ⟨_, ha, hp⟩ := Option.bind_eq_some_iff.mp hp
    obtain ⟨r, hs, rfl⟩ := Option.map_eq_some_iff.mp ha
    simp only [Piece.references, hs] at hb
    exact index_lt_of_position? (inBounds_of_ofSpelling? hs) (hb r (.head _)) hp

/-! ## Formulas -/

/-- A formula whose references all name what lies before an index comes to the same on views that
agree there. -/
theorem evaluate_eq_of_agreeBefore (h : AgreeBefore axis n v w) {formula : String}
    (hb : ∀ r ∈ references formula, r.Before axis n) :
    evaluate formula v a = evaluate formula w a := by
  refine evaluate_congr fun body hbody => ?_
  unfold references at hb
  rw [hbody] at hb
  cases body with
  | call name args =>
    intro parameter hm
    have hr : SameReads parameter a v w :=
      sameReads_of_agreeBefore h fun r hr => hb r (List.mem_flatMap.mpr ⟨_, hm, hr⟩)
    exact hr.sameParameter
  | arithmetic text =>
    intro piece hm
    have hr : ∀ r ∈ piece.references, r.Before axis n :=
      fun r hr => hb r (List.mem_flatMap.mpr ⟨_, hm, hr⟩)
    exact fill_congr fun p hp => h.value (index_lt_of_reads hr hp)

end Formula

end Spreadsheet
