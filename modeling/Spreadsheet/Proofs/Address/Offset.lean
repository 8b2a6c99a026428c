import Spreadsheet.Address.Reference

/-!
# Offsets of references

A reference that is read at an anchor holds its relative axes as offsets from the anchor, and an
anchor beyond the greatest coordinate counts as standing on it. The coordinates that a text can give
a reference start at the row above the first one (`Written`), so every offset can be held
(`offset_inBounds`), the one from the greatest coordinate to that row as the least of all. At its
own anchor an offset gives back the coordinate it was taken from, and at another one it stops at
most at the greatest coordinate (`parseAt?_moves_with_anchor`).
-/

namespace Spreadsheet.Reference

variable {r : Reference} {token : List Char} {x : Int}

/-! ## Coordinates that are written -/

/-- Whether both coordinates of a reference are such as can be held. -/
structure InBounds (r : Reference) : Prop where
  row : minCoordinate ≤ r.row ∧ r.row ≤ maxCoordinate
  col : minCoordinate ≤ r.col ∧ r.col ≤ maxCoordinate

/-- Whether both coordinates of a reference are such as a text can give it. -/
structure Written (r : Reference) : Prop where
  row : -1 ≤ r.row ∧ r.row ≤ maxCoordinate
  col : 0 ≤ r.col ∧ r.col ≤ maxCoordinate

theorem written_of_ofSpelling? {s : Spelling} (h : ofSpelling? s = some r) : r.Written := by
  unfold ofSpelling? at h
  split at h
  · cases h
  · rename_i col _
    simp only at h
    split at h
    · rename_i hn
      obtain rfl := Option.some.inj h
      constructor <;> simp only [coordinate, maxCoordinate] at hn ⊢ <;> omega
    · cases h

theorem written_of_parse? (h : parse? token = some r) : r.Written := by
  unfold parse? at h
  split at h
  · exact written_of_ofSpelling? h
  · cases h

theorem Written.inBounds (h : r.Written) : r.InBounds := by
  obtain ⟨hrow, hcol⟩ := h
  constructor <;> simp only [minCoordinate] <;> omega

theorem inBounds_of_ofSpelling? {s : Spelling} (h : ofSpelling? s = some r) : r.InBounds :=
  (written_of_ofSpelling? h).inBounds

theorem inBounds_of_parse? (h : parse? token = some r) : r.InBounds :=
  (written_of_parse? h).inBounds

/-! ## Offsets along one axis -/

theorem coordinate_inBounds (index : Nat) :
    0 ≤ coordinate index ∧ coordinate index ≤ maxCoordinate := by
  unfold coordinate maxCoordinate
  omega

/-- No offset is lost: it is least from the greatest coordinate to the row above the first one. -/
theorem offset_inBounds (h : -1 ≤ x ∧ x ≤ maxCoordinate) (index : Nat) :
    minCoordinate ≤ x - coordinate index ∧ x - coordinate index ≤ maxCoordinate := by
  have hc := coordinate_inBounds index
  simp only [minCoordinate, maxCoordinate] at h hc ⊢
  omega

/-- An offset is undone at the anchor it was taken at. -/
theorem nearestCoordinate_offset (h : minCoordinate ≤ x ∧ x ≤ maxCoordinate) (c : Int) :
    nearestCoordinate (c + (x - c)) = x := by
  unfold nearestCoordinate
  omega

/-- At another anchor an offset cannot stop at the least coordinate. -/
theorem nearestCoordinate_offset_moved (h : -1 ≤ x) (i j : Nat) :
    nearestCoordinate (coordinate j + (x - coordinate i)) =
      min maxCoordinate (x + coordinate j - coordinate i) := by
  have hi := coordinate_inBounds i
  have hj := coordinate_inBounds j
  simp only [nearestCoordinate, minCoordinate, maxCoordinate] at hi hj ⊢
  omega

/-! ## References at anchors -/

variable (a b : Position)

theorem rowAt_relativeTo (h : r.InBounds) : (r.relativeTo a).rowAt a = r.row := by
  cases hr : r.rowAbsolute with
  | false =>
    simp only [rowAt, relativeTo, hr, Bool.false_eq_true, if_false]
    exact nearestCoordinate_offset h.row _
  | true => simp only [rowAt, relativeTo, hr, if_true]

theorem colAt_relativeTo (h : r.InBounds) : (r.relativeTo a).colAt a = r.col := by
  cases hc : r.colAbsolute with
  | false =>
    simp only [colAt, relativeTo, hc, Bool.false_eq_true, if_false]
    exact nearestCoordinate_offset h.col _
  | true => simp only [colAt, relativeTo, hc, if_true]

theorem position?_relativeTo (h : r.InBounds) :
    (r.relativeTo a).position? a = (r.relativeTo b).position? b := by
  unfold position?
  simp only [rowAt_relativeTo _ h, colAt_relativeTo _ h]

/-- The position that a text means does not depend on the anchor at which it is read and used. -/
theorem bind_position?_anchor {r? : Option Reference} (h : ∀ r ∈ r?, r.InBounds) :
    ((r?.map (·.relativeTo a)).bind (·.position? a)) =
      ((r?.map (·.relativeTo b)).bind (·.position? b)) := by
  cases r? with
  | none => rfl
  | some r => exact position?_relativeTo a b (h r rfl)

theorem Written.inBounds_relativeTo (h : r.Written) : (r.relativeTo a).InBounds where
  row := by
    cases hr : r.rowAbsolute with
    | false =>
      simp only [relativeTo, hr, Bool.false_eq_true, if_false]
      exact offset_inBounds h.row a.row
    | true =>
      simp only [relativeTo, hr, if_true]
      exact h.inBounds.row
  col := by
    cases hc : r.colAbsolute with
    | false =>
      simp only [relativeTo, hc, Bool.false_eq_true, if_false]
      exact offset_inBounds ⟨Int.le_trans (by decide) h.col.1, h.col.2⟩ a.col
    | true =>
      simp only [relativeTo, hc, if_true]
      exact h.inBounds.col

theorem Written.rowAt_moved (h : r.Written) :
    (r.relativeTo a).rowAt b = if r.rowAbsolute then r.row
      else min maxCoordinate (r.row + coordinate b.row - coordinate a.row) := by
  cases hr : r.rowAbsolute with
  | false =>
    simp only [rowAt, relativeTo, hr, Bool.false_eq_true, if_false]
    exact nearestCoordinate_offset_moved h.row.1 a.row b.row
  | true => simp only [rowAt, relativeTo, hr, if_true]

theorem Written.colAt_moved (h : r.Written) :
    (r.relativeTo a).colAt b = if r.colAbsolute then r.col
      else min maxCoordinate (r.col + coordinate b.col - coordinate a.col) := by
  cases hc : r.colAbsolute with
  | false =>
    simp only [colAt, relativeTo, hc, Bool.false_eq_true, if_false]
    exact nearestCoordinate_offset_moved (Int.le_trans (by decide) h.col.1) a.col b.col
  | true => simp only [colAt, relativeTo, hc, if_true]

/-- A text that is a reference is one at every anchor, and the offsets from the anchor can be held.
Used there, it means the coordinates that were read. Used at another anchor, it means the
coordinates that were read on its absolute axes; on the others they move along with the anchor, and
no further than to the greatest coordinate. -/
theorem parseAt?_moves_with_anchor (h : parse? token = some r) :
    ∃ q, parseAt? token a = some q ∧ q.InBounds ∧
      (r.rowAbsolute = false → q.row = r.row - coordinate a.row) ∧
      (r.colAbsolute = false → q.col = r.col - coordinate a.col) ∧
      (q.rowAt a = r.row ∧ q.colAt a = r.col) ∧
      (q.rowAt b = if r.rowAbsolute then r.row
        else min maxCoordinate (r.row + coordinate b.row - coordinate a.row)) ∧
      (q.colAt b = if r.colAbsolute then r.col
        else min maxCoordinate (r.col + coordinate b.col - coordinate a.col)) := by
  have hw := written_of_parse? h
  refine ⟨r.relativeTo a, ?_, hw.inBounds_relativeTo a, fun hr => ?_, fun hc => ?_,
    ⟨rowAt_relativeTo a hw.inBounds, colAt_relativeTo a hw.inBounds⟩, hw.rowAt_moved a b,
    hw.colAt_moved a b⟩
  · rw [parseAt?, h, Option.map_some]
  · simp only [relativeTo, hr, Bool.false_eq_true, if_false]
  · simp only [relativeTo, hc, Bool.false_eq_true, if_false]

/-- The row above the first one, read at an anchor beyond the greatest coordinate, is the least
offset. Used beyond the greatest coordinate of the other axis, the column stops there. -/
theorem parseAt?_moves_with_anchor_of_far :
    parse? ['B', '0'] = some ⟨-1, 1, false, false⟩ ∧
      ∃ q, parseAt? ['B', '0'] ⟨18446744073709551615, 0⟩ = some q ∧ q.row = minCoordinate ∧
        q.rowAt ⟨18446744073709551615, 0⟩ = -1 ∧
        q.rowAt ⟨0, 18446744073709551615⟩ = minCoordinate ∧
        q.colAt ⟨0, 18446744073709551615⟩ = maxCoordinate := by
  have h : parse? ['B', '0'] = some ⟨-1, 1, false, false⟩ := by decide
  obtain ⟨q, hq, -, hrow, -, ⟨hhere, -⟩, hrowAt, hcolAt⟩ :=
    parseAt?_moves_with_anchor ⟨18446744073709551615, 0⟩ ⟨0, 18446744073709551615⟩ h
  exact ⟨h, q, hq, hrow rfl, hhere, hrowAt, hcolAt⟩

end Spreadsheet.Reference
