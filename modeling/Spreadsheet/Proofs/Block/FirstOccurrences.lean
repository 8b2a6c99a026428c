import Mathlib.Data.List.Forall2
import Spreadsheet.Block

/-!
# First occurrences

A row is kept when it equals none of the rows kept so far. If equality is transitive, that is to say
when it equals no earlier row at all: an earlier row that was dropped equals a kept one. Hence
`firstOccurrences` is a filter on the indices (`firstOccurrences_eq_filter`). Equality need not be
reflexive.
-/

namespace Spreadsheet.Block

variable {α : Type} {same : α → α → Bool} {kept before rows rest : List α} {row : α} {i : Nat}

/-! ## Equal rows -/

theorem sameRow_iff_forall₂ {xs ys : List α} :
    sameRow same xs ys ↔ List.Forall₂ (fun x y => same x y) xs ys := by
  induction xs generalizing ys with
  | nil => cases ys <;> simp [sameRow]
  | cons x xs ih => cases ys <;> simp [sameRow, ih]

theorem sameRow_map_iff {β : Type} {l : List β} {f g : β → α} :
    sameRow same (l.map f) (l.map g) ↔ ∀ x ∈ l, same (f x) (g x) := by
  rw [sameRow_iff_forall₂, List.forall₂_map_left_iff, List.forall₂_map_right_iff, List.forall₂_same]

theorem sameRow_trans (h : ∀ x y z, same x y → same y z → same x z) {xs ys zs : List α} :
    sameRow same xs ys → sameRow same ys zs → sameRow same xs zs := by
  simp only [sameRow_iff_forall₂]
  intro hxy
  induction hxy generalizing zs with
  | nil => exact id
  | cons hx _ ih =>
    intro hyz
    cases hyz with
    | cons hy hyz => exact .cons (h _ _ _ hx hy) (ih hyz)

/-! ## Kept rows -/

/-- Whether the row at an index equals no earlier row. -/
def IsFirst (same : α → α → Bool) (rows : List α) (i : Nat) : Prop :=
  ∀ j < i, ∀ x ∈ rows[j]?, ∀ y ∈ rows[i]?, same x y = false

instance : DecidablePred (IsFirst same rows) := fun i =>
  inferInstanceAs (Decidable (∀ j < i, ∀ x ∈ rows[j]?, ∀ y ∈ rows[i]?, same x y = false))

theorem isFirst_append_cons :
    IsFirst same (before ++ row :: rest) before.length ↔ before.any (same · row) = false := by
  have hrow : (before ++ row :: rest)[before.length]? = some row := by simp
  have hbefore : ∀ j < before.length, (before ++ row :: rest)[j]? = before[j]? :=
    fun j hj => List.getElem?_append_left hj
  rw [List.any_eq_false]
  constructor
  · intro h x hx
    obtain ⟨j, hj, rfl⟩ := List.getElem_of_mem hx
    rw [h j hj before[j] (by rw [hbefore j hj]; exact List.getElem?_eq_getElem hj) row hrow]
    exact Bool.false_ne_true
  · intro h j hj x hx y hy
    rw [hbefore j hj] at hx
    rw [hrow] at hy
    obtain rfl := Option.some.inj hy
    exact Bool.eq_false_iff.mpr (h x (List.mem_of_getElem? hx))

/-- The kept rows stand for all earlier ones: whatever equals an earlier row equals a kept one. -/
theorem firstOccurrencesFrom_eq_filter (htrans : ∀ x y z, same x y → same y z → same x z)
    (hkept : ∀ y, kept.any (same · y) = before.any (same · y)) :
    firstOccurrencesFrom same before.length kept rest =
      (List.range' before.length rest.length).filter (IsFirst same (before ++ rest)) := by
  induction rest generalizing before kept with
  | nil => rfl
  | cons row rest ih =>
    have hnext : before ++ row :: rest = (before ++ [row]) ++ rest := by simp
    have hlength : (before ++ [row]).length = before.length + 1 := by simp
    have hany : ∀ y, (before ++ [row]).any (same · y) = (before.any (same · y) || same row y) := by
      simp
    rw [List.length_cons, List.range'_succ, List.filter_cons]
    cases hrow : kept.any (same · row) with
    | false =>
      have hfirst : IsFirst same (before ++ row :: rest) before.length :=
        isFirst_append_cons.mpr ((hkept row).symm.trans hrow)
      have ih := @ih (row :: kept) (before ++ [row]) fun y => by
        rw [hany, List.any_cons, hkept, Bool.or_comm]
      rw [firstOccurrencesFrom, hrow, if_neg Bool.false_ne_true, if_pos (decide_eq_true hfirst),
        ← hlength, ih, ← hnext]
    | true =>
      have hfirst : ¬ IsFirst same (before ++ row :: rest) before.length := by
        rw [isFirst_append_cons, ← hkept, hrow]
        exact Bool.noConfusion
      have ih := @ih kept (before ++ [row]) fun y => by
        rw [hany, ← hkept]
        -- What equals the row equals the kept row that the row equals.
        cases hy : same row y with
        | false => exact (Bool.or_false _).symm
        | true =>
          obtain ⟨x, hx, hxrow⟩ := List.any_eq_true.mp hrow
          rw [Bool.or_true]
          exact List.any_eq_true.mpr ⟨x, hx, htrans _ _ _ hxrow hy⟩
      rw [firstOccurrencesFrom, hrow, if_pos rfl, if_neg (by simpa using hfirst), ← hlength, ih,
        ← hnext]

theorem firstOccurrences_eq_filter (htrans : ∀ x y z, same x y → same y z → same x z)
    (rows : List α) :
    firstOccurrences same rows = (List.range rows.length).filter (IsFirst same rows) := by
  have hkept : ∀ y, ([] : List α).any (same · y) = ([] : List α).any (same · y) := fun _ => rfl
  rw [List.range_eq_range']
  exact firstOccurrencesFrom_eq_filter htrans hkept

end Spreadsheet.Block
