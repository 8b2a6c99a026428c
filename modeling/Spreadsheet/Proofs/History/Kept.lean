import Spreadsheet.Proofs.History.Timeline

/-!
# How much a history keeps

Besides its current state a history keeps the states before it and the undone ones. The limit is put
on the former only, and only when a state is applied: redoing adds to them and drops none
(`redo_eq_ok`). All the same no more than the limit are kept of both together
(`kept_within_limit`). A step through the history takes a state from one side and adds one to the
other, so only a new state can make them more, and with it the undone ones are dropped.
-/

namespace Spreadsheet.History

variable {α : Type} {h g : History α} {limit : Nat}

/-- The number of states that are kept besides the current one. -/
def kept (h : History α) : Nat := h.past.length + h.future.length

/-! ## Steps -/

theorem undo_eq_ok (hu : h.undo = .ok g) : ∃ state past, h.past = state :: past ∧
    g = { h with current := state, past, future := h.current :: h.future } := by
  unfold undo at hu
  split at hu
  · cases hu
  · rename_i state past hpast
    cases hu
    exact ⟨state, past, hpast, rfl⟩

theorem redo_eq_ok (hr : h.redo = .ok g) : ∃ state future, h.future = state :: future ∧
    g = { h with current := state, past := h.current :: h.past, future } := by
  unfold redo at hr
  split at hr
  · cases hr
  · rename_i state future hfuture
    cases hr
    exact ⟨state, future, hfuture, rfl⟩

theorem kept_apply (h : History α) (state : α) :
    (h.apply state).kept = min h.limit (h.past.length + 1) :=
  List.length_take

theorem kept_undo (hu : h.undo = .ok g) : g.kept = h.kept := by
  obtain ⟨state, past, hpast, rfl⟩ := undo_eq_ok hu
  simp only [kept, hpast, List.length_cons]
  omega

theorem kept_redo (hr : h.redo = .ok g) : g.kept = h.kept := by
  obtain ⟨state, future, hfuture, rfl⟩ := redo_eq_ok hr
  simp only [kept, hfuture, List.length_cons]
  omega

/-! ## Runs -/

/-- Whether a history has a limit and keeps no more than that. The past states alone would not do:
that redoing keeps them within the limit depends on the undone ones. -/
structure Within (limit : Nat) (h : History α) : Prop where
  limit_eq : h.limit = limit
  kept_le : h.kept ≤ limit

theorem Within.call {c : Call α} (hw : h.Within limit) (hc : h.call c = .ok g) :
    g.Within limit := by
  cases c with
  | apply state =>
    cases hc
    refine ⟨hw.limit_eq, ?_⟩
    rw [kept_apply, hw.limit_eq]
    exact Nat.min_le_left _ _
  | undo =>
    refine ⟨?_, (kept_undo hc).trans_le hw.kept_le⟩
    obtain ⟨state, past, -, rfl⟩ := undo_eq_ok hc
    exact hw.limit_eq
  | redo =>
    refine ⟨?_, (kept_redo hc).trans_le hw.kept_le⟩
    obtain ⟨state, future, -, rfl⟩ := redo_eq_ok hc
    exact hw.limit_eq

theorem Within.afterCall (hw : h.Within limit) (c : Call α) : (h.afterCall c).Within limit := by
  cases hc : h.call c with
  | ok g =>
    have hg : h.afterCall c = g := by
      unfold History.afterCall
      rw [hc]
      rfl
    rw [hg]
    exact hw.call hc
  | error e =>
    rw [afterCall_of_error hc]
    exact hw

theorem Within.run (calls : List (Call α)) :
    ∀ {h : History α}, h.Within limit → (h.run calls).Within limit := by
  induction calls with
  | nil => exact id
  | cons c calls ih => exact fun hw => ih (hw.afterCall c)

theorem within_start (state : α) (limit : Nat) : (start state limit).Within limit :=
  ⟨rfl, Nat.zero_le limit⟩

/-- Whatever is called on a history, the past states and the undone ones together are never more
than the limit. Redoing all the same adds the current state to the past ones and drops none. -/
theorem kept_within_limit (state : α) (limit : Nat) (calls : List (Call α)) :
    ((start state limit).run calls).past.length + ((start state limit).run calls).future.length ≤
        limit ∧
      ∀ g, ((start state limit).run calls).redo = .ok g →
        g.past =
          ((start state limit).run calls).current :: ((start state limit).run calls).past := by
  refine ⟨((within_start state limit).run calls).kept_le, fun g hr => ?_⟩
  obtain ⟨next, future, -, rfl⟩ := redo_eq_ok hr
  rfl

/-- With a limit of two, three states are applied and two of them undone. What is kept fills the
limit then, and redoing one adds to the past. -/
theorem kept_within_limit_of_undone :
    ((start 0 2).run [.apply 1, .apply 2, .apply 3, .undo, .undo]).kept = 2 ∧
      ((start 0 2).run [.apply 1, .apply 2, .apply 3, .undo, .undo]).kept ≤ 2 ∧
      ∃ g, ((start 0 2).run [.apply 1, .apply 2, .apply 3, .undo, .undo]).redo = .ok g ∧
        g.past = [1] := by
  have h := kept_within_limit 0 2 [.apply 1, .apply 2, .apply 3, .undo, .undo]
  exact ⟨rfl, h.1, _, rfl, h.2 _ rfl⟩

end Spreadsheet.History
