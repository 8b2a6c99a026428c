import Spreadsheet.Proofs.Block.FirstOccurrences
import Spreadsheet.Proofs.Cell.Equality

/-!
# Blocks without duplicates

The kept rows of a block are pairwise unequal, and every other row equals a kept one above it
(`exists_mem_firstOccurrences`). Among rows that are pairwise unequal each is a first occurrence, so
removing duplicates again keeps all of them (`removeDuplicates_eq_self`). No row is taken to equal
itself: one with a value that is no number does not, and is kept however often it stands there.
-/

namespace Spreadsheet.Block

variable {α : Type} {same : α → α → Bool} {rows : List α} {i j : Nat}

theorem sameRow_symm (h : ∀ x y, same x y → same y x) {xs ys : List α} :
    sameRow same xs ys → sameRow same ys xs := by
  simp only [sameRow_iff_forall₂]
  exact fun hxy => (hxy.imp h).flip

/-! ## Kept rows -/

theorem mem_firstOccurrences_iff (htrans : ∀ x y z, same x y → same y z → same x z) :
    i ∈ firstOccurrences same rows ↔ i < rows.length ∧ IsFirst same rows i := by
  rw [firstOccurrences_eq_filter htrans, List.mem_filter, List.mem_range, decide_eq_true_eq]

theorem isFirst_iff : i < rows.length ∧ IsFirst same rows i ↔
    ∃ row, rows[i]? = some row ∧ ∀ j < i, ∀ earlier ∈ rows[j]?, ¬ same earlier row := by
  simp only [Bool.not_eq_true]
  constructor
  · rintro ⟨hi, h⟩
    exact ⟨rows[i], List.getElem?_eq_getElem hi,
      fun j hj x hx => h j hj x hx _ (List.getElem?_eq_getElem hi)⟩
  · rintro ⟨row, hrow, h⟩
    refine ⟨(List.getElem?_eq_some_iff.mp hrow).1, fun j hj x hx y hy => ?_⟩
    obtain rfl := Option.some.inj (hrow.symm.trans hy)
    exact h j hj x hx

theorem pairwise_firstOccurrences (htrans : ∀ x y z, same x y → same y z → same x z)
    (rows : List α) : (firstOccurrences same rows).Pairwise (· < ·) := by
  rw [firstOccurrences_eq_filter htrans]
  exact List.pairwise_lt_range.filter _

/-- A row that is dropped equals a kept one above it: the topmost of the rows that it equals. -/
theorem exists_mem_firstOccurrences (htrans : ∀ x y z, same x y → same y z → same x z) {row : α}
    (hrow : rows[i]? = some row) (hi : i ∉ firstOccurrences same rows) :
    ∃ j ∈ firstOccurrences same rows, j < i ∧ ∃ x ∈ rows[j]?, same x row := by
  induction i using Nat.strongRecOn generalizing row with
  | ind i ih =>
    have hlength : i < rows.length := (List.getElem?_eq_some_iff.mp hrow).1
    have hfirst : ¬ IsFirst same rows i :=
      fun h => hi ((mem_firstOccurrences_iff htrans).mpr ⟨hlength, h⟩)
    simp only [IsFirst, not_forall, Bool.not_eq_false] at hfirst
    obtain ⟨j, hji, x, hx, y, hy, hxy⟩ := hfirst
    obtain rfl := Option.some.inj (hrow.symm.trans hy)
    by_cases hj : j ∈ firstOccurrences same rows
    · exact ⟨j, hj, hji, x, hx, hxy⟩
    · obtain ⟨k, hk, hkj, z, hz, hzx⟩ := ih j hji hx hj
      exact ⟨k, hk, hkj.trans hji, z, hz, htrans z x row hzx hxy⟩

/-- No kept row equals a kept one below it. -/
theorem pairwise_removeDuplicates (htrans : ∀ x y z, same x y → same y z → same x z)
    (rows : List α) : (removeDuplicates same rows).Pairwise fun x y => same x y = false := by
  refine List.pairwise_filterMap.mpr ?_
  refine (pairwise_firstOccurrences htrans rows).imp_of_mem fun {i j} _ hj hij x hx y hy => ?_
  exact ((mem_firstOccurrences_iff htrans).mp hj).2 i hij x hx y hy

/-! ## Removing duplicates again -/

theorem filterMap_range_getElem? (rows : List α) :
    (List.range rows.length).filterMap (rows[·]?) = rows := by
  induction rows with
  | nil => rfl
  | cons row rows ih =>
    have hzero : (row :: rows)[0]? = some row := rfl
    rw [List.length_cons, List.range_succ_eq_map, List.filterMap_cons, hzero, List.filterMap_map]
    exact congrArg (row :: ·) ih

/-- Rows none of which equals one below it are all kept. -/
theorem removeDuplicates_eq_self (htrans : ∀ x y z, same x y → same y z → same x z)
    (h : rows.Pairwise fun x y => same x y = false) : removeDuplicates same rows = rows := by
  have hfirst : ∀ i ∈ List.range rows.length, IsFirst same rows i := by
    intro i _ j hj x hx y hy
    obtain ⟨hjl, rfl⟩ := List.getElem?_eq_some_iff.mp hx
    obtain ⟨hil, rfl⟩ := List.getElem?_eq_some_iff.mp hy
    exact List.pairwise_iff_getElem.mp h j i hjl hil hj
  have hall : firstOccurrences same rows = List.range rows.length := by
    rw [firstOccurrences_eq_filter htrans]
    exact List.filter_eq_self.mpr fun i hi => decide_eq_true (hfirst i hi)
  rw [removeDuplicates, hall, filterMap_range_getElem?]

/-- The first rows of each kind of equal rows are first ones among themselves. -/
theorem removeDuplicates_removeDuplicates (htrans : ∀ x y z, same x y → same y z → same x z)
    (rows : List α) :
    removeDuplicates same (removeDuplicates same rows) = removeDuplicates same rows :=
  removeDuplicates_eq_self htrans (pairwise_removeDuplicates htrans rows)

/-- Rows are compared entry by entry, with any symmetric and transitive equality of entries. The
kept indices are, in ascending order, those of the rows that equal no earlier row. So the kept rows
are pairwise unequal, and every other row equals an earlier kept one. Removing duplicates again
changes nothing, for such rows and for blocks of values. -/
theorem firstOccurrences_are_first (hsymm : ∀ x y, same x y → same y x)
    (htrans : ∀ x y z, same x y → same y z → same x z) (rows : List (List α)) :
    (firstOccurrences (sameRow same) rows).Pairwise (· < ·) ∧
      (∀ i, i ∈ firstOccurrences (sameRow same) rows ↔ ∃ row, rows[i]? = some row ∧
        ∀ j < i, ∀ earlier ∈ rows[j]?, ¬ sameRow same earlier row) ∧
      (removeDuplicates (sameRow same) rows).Pairwise (fun x y =>
        ¬ sameRow same x y ∧ ¬ sameRow same y x) ∧
      (∀ i row, rows[i]? = some row → i ∉ firstOccurrences (sameRow same) rows →
        ∃ j ∈ firstOccurrences (sameRow same) rows, j < i ∧
          ∃ kept ∈ rows[j]?, sameRow same kept row) ∧
      removeDuplicates (sameRow same) (removeDuplicates (sameRow same) rows) =
        removeDuplicates (sameRow same) rows ∧
      ∀ block : List (List Value), removeDuplicates (sameRow Value.same)
        (removeDuplicates (sameRow Value.same) block) =
          removeDuplicates (sameRow Value.same) block := by
  have hrows : ∀ xs ys zs, sameRow same xs ys → sameRow same ys zs → sameRow same xs zs :=
    fun _ _ _ => sameRow_trans htrans
  have hvalues : ∀ u v w : Value, u.same v → v.same w → u.same w := fun _ _ _ => Value.same_trans
  refine ⟨pairwise_firstOccurrences hrows rows, fun i => ?_, ?_,
    fun i row => exists_mem_firstOccurrences hrows, removeDuplicates_removeDuplicates hrows rows,
    removeDuplicates_removeDuplicates fun _ _ _ => sameRow_trans hvalues⟩
  · rw [mem_firstOccurrences_iff hrows, isFirst_iff]
  · refine (pairwise_removeDuplicates hrows rows).imp fun {x y} hxy => ?_
    rw [← Bool.not_eq_true] at hxy
    exact ⟨hxy, fun hyx => hxy (sameRow_symm hsymm hyx)⟩

/-- A row with a zero, the same with the other zero, and twice a row with no number. -/
def unequalToItself : List (List Value) :=
  [[.number (0 / 0), .text "a"], [.number 0, .empty], [.number (-0.0), .empty],
    [.number (0 / 0), .text "a"]]

/-- The row with the other zero goes, and the row that does not equal itself stays twice. -/
theorem firstOccurrences_are_first_of_values :
    ((∀ u v : Value, u.same v → v.same u) ∧
        ∀ u v w : Value, u.same v → v.same w → u.same w) ∧
      3 ∈ firstOccurrences (sameRow Value.same) unequalToItself ∧
      ∃ j ∈ firstOccurrences (sameRow Value.same) unequalToItself, j < 2 ∧
        ∃ kept ∈ unequalToItself[j]?, sameRow Value.same kept [.number (-0.0), .empty] := by
  have hsymm : ∀ u v : Value, u.same v → v.same u := fun _ _ => Value.same_symm
  have htrans : ∀ u v w : Value, u.same v → v.same w → u.same w := fun _ _ _ => Value.same_trans
  obtain ⟨-, hmem, -, hdropped, -, -⟩ := firstOccurrences_are_first hsymm htrans unequalToItself
  exact ⟨⟨hsymm, htrans⟩, (hmem 3).mpr ⟨_, rfl, by decide +kernel⟩,
    hdropped 2 _ rfl (by decide +kernel)⟩

end Spreadsheet.Block
