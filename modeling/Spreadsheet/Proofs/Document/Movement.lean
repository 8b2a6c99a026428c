import Spreadsheet.Proofs.Document.AxisEdit

/-!
# Where cells go

An edit of an axis can be read backwards: `AxisEdit.source?` takes an index after the edit to the
index it was before. A sheet then holds, after the edit, what it held at the source
(`getElem?_renameAxis_eq_bind`). No two cells go to one place, so as many are stored as before but
for those that go nowhere (`size_rekey`). `insert_delete_move_cells` says what that comes to for
inserting and for deleting, and when either fails.
-/

namespace Spreadsheet

namespace Document

/-! ## Maps with renamed keys -/

section Maps

variable {κ α : Type} {order : κ → κ → Ordering} [Std.TransCmp order] [Std.LawfulEqCmp order]
  {entries : Std.ExtTreeMap κ α order} {rename source : κ → Option κ}

theorem keepsApart_of_source (h : ∀ k l, rename k = some l ↔ source l = some k) :
    KeepsApart rename := by
  intro k l m hk hl
  have hk' : source m = some k := (h k m).mp hk
  have hl' : source m = some l := (h l m).mp hl
  exact Option.some.inj (hk'.symm.trans hl')

theorem getElem?_rekey_eq_bind (h : ∀ k l, rename k = some l ↔ source l = some k) (l : κ) :
    (rekey rename entries)[l]? = (source l).bind (entries[·]?) := by
  refine Option.ext fun x => ?_
  simp only [getElem?_rekey_eq_some_iff (keepsApart_of_source h), h, Option.bind_eq_some_iff]

/-- A renaming loses the entries that get no new name and no others. -/
theorem size_rekey (h : KeepsApart rename) (entries : Std.ExtTreeMap κ α order) :
    (rekey rename entries).size + (entries.filter fun k _ => (rename k).isNone).size =
      entries.size := by
  have hdistinct : (entries.toList.filterMap fun e => (rename e.1).map (·, e.2)).Pairwise
      fun a b => ¬ order a.1 b.1 = .eq := by
    refine List.Pairwise.filterMap _ ?_ entries.distinct_keys_toList
    intro e e' hne x hx y hy heq
    obtain ⟨k, hk, rfl⟩ := Option.map_eq_some_iff.mp hx
    obtain ⟨l, hl, rfl⟩ := Option.map_eq_some_iff.mp hy
    obtain rfl : k = l := Std.LawfulEqCmp.eq_of_compare heq
    rw [h hk hl] at hne
    exact hne Std.ReflCmp.compare_self
  have hkept : (rekey rename entries).size =
      entries.toList.countP fun e => (rename e.1).isSome := by
    have hr : rekey rename entries =
        .ofList (entries.toList.filterMap fun e => (rename e.1).map (·, e.2)) order := rfl
    rw [hr, Std.ExtTreeMap.size_ofList hdistinct, List.length_filterMap_eq_countP]
    simp only [Option.isSome_map]
  have hlost : (entries.filter fun k _ => (rename k).isNone).size =
      entries.toList.countP fun e => ¬ (rename e.1).isSome := by
    rw [← Std.ExtTreeMap.length_toList, Std.ExtTreeMap.toList_filter,
      ← List.countP_eq_length_filter]
    simp only [decide_not, Bool.decide_eq_true, Option.not_isSome]
  rw [hkept, hlost, ← List.length_eq_countP_add_countP, Std.ExtTreeMap.length_toList]

end Maps

/-! ## Sheets -/

section Sheets

variable {d : Document} {axis : Axis} {n : Nat} {rename source : Nat → Option Nat}

theorem movePosition_eq_some_iff (h : ∀ k l, rename k = some l ↔ source l = some k)
    (p q : Position) :
    movePosition axis rename p = some q ↔ movePosition axis source q = some p := by
  -- It is enough to go one way, since the two renamings can be exchanged.
  have go : ∀ {f g : Nat → Option Nat}, (∀ k l, f k = some l → g l = some k) →
      ∀ {p q : Position}, movePosition axis f p = some q → movePosition axis g q = some p := by
    intro f g hfg p q hp
    obtain ⟨i, hi, rfl⟩ := Option.map_eq_some_iff.mp hp
    have hg : g i = some (p.index axis) := hfg _ _ hi
    simp only [movePosition, Position.index_withIndex, if_pos, hg, Option.map_some,
      Position.withIndex_withIndex, Position.withIndex_index]
  exact ⟨go fun k l => (h k l).mp, go fun k l => (h l k).mpr⟩

theorem getElem?_renameAxis_eq_bind (h : ∀ k l, rename k = some l ↔ source l = some k)
    (q : Position) : (d.renameAxis axis n rename).cells[q]? =
      (movePosition axis source q).bind (d.cells[·]?) := by
  rw [cells_renameAxis]
  exact getElem?_rekey_eq_bind (movePosition_eq_some_iff h) q

theorem size_cells_renameAxis (h : KeepsApart rename) :
    (d.renameAxis axis n rename).cells.size +
        (d.cells.filter fun p _ => (rename (p.index axis)).isNone).size =
      d.cells.size := by
  have hs := size_rekey (keepsApart_movePosition axis h) d.cells
  simp only [movePosition, Option.isNone_map] at hs
  exact hs

end Sheets

end Document

/-! ## Edits read backwards -/

namespace AxisEdit

variable {d e : Document} {axis : Axis}

/-- Where an index was before the edit. -/
def source? : AxisEdit → Nat → Option Nat
  | .insert index => closeGap? index
  | .delete index => some ∘ openGap index

theorem rename_eq_some_iff (o : AxisEdit) (k m : Nat) :
    o.rename k = some m ↔ o.source? m = some k := by
  cases o with
  | insert index => exact Option.some_inj.trans closeGap?_eq_some_iff.symm
  | delete index => exact closeGap?_eq_some_iff.trans Option.some_inj.symm

theorem getElem?_cells_of_apply {o : AxisEdit} (he : o.apply axis d = .ok e) (q : Position) :
    e.cells[q]? = (Document.movePosition axis o.source? q).bind (d.cells[·]?) := by
  obtain ⟨-, rfl⟩ := apply_eq_ok.mp he
  exact Document.getElem?_renameAxis_eq_bind o.rename_eq_some_iff q

theorem getElem?_sizes_of_apply {o : AxisEdit} (he : o.apply axis d = .ok e) (k : Nat) :
    (e.sizes axis)[k]? = (o.source? k).bind ((d.sizes axis)[·]?) := by
  obtain ⟨-, rfl⟩ := apply_eq_ok.mp he
  rw [Document.sizes_renameAxis, if_pos rfl]
  exact Document.getElem?_rekey_eq_bind o.rename_eq_some_iff k

theorem sizes_of_apply {o : AxisEdit} (he : o.apply axis d = .ok e) {b : Axis} (hb : b ≠ axis) :
    e.sizes b = d.sizes b := by
  obtain ⟨-, rfl⟩ := apply_eq_ok.mp he
  rw [Document.sizes_renameAxis, if_neg hb.symm]

theorem length_of_apply {o : AxisEdit} (he : o.apply axis d = .ok e) {b : Axis} (hb : b ≠ axis) :
    e.length b = d.length b := by
  obtain ⟨-, rfl⟩ := apply_eq_ok.mp he
  exact Document.length_renameAxis_of_ne d hb.symm _ _

theorem size_cells_of_apply {o : AxisEdit} (he : o.apply axis d = .ok e) :
    e.cells.size + (d.cells.filter fun p _ => (o.rename (p.index axis)).isNone).size =
      d.cells.size := by
  obtain ⟨-, rfl⟩ := apply_eq_ok.mp he
  exact Document.size_cells_renameAxis o.keepsApart_rename

theorem apply_eq_error_iff (o : AxisEdit) :
    (∃ x, o.apply axis d = .error x) ↔ ¬ o.Fits (d.length axis) := by
  cases h : o.apply axis d with
  | ok e => simp [(apply_eq_ok.mp h).1]
  | error x =>
    have hf : ¬ o.Fits (d.length axis) := by
      intro hf
      have hok := apply_eq_ok.mpr ⟨hf, rfl⟩
      rw [h] at hok
      cases hok
    simp [hf]

end AxisEdit

/-! ## Inserting and deleting -/

namespace Document

variable {d e : Document} {axis : Axis} {i : Nat}

/-- The second sheet is the first one with something inserted in front of an index: what stood
there and behind moved back by one, and nothing else changed. The length grew by one, or wrapped
around where it was the greatest index. -/
structure Inserted (d e : Document) (axis : Axis) (i : Nat) : Prop where
  cells_before : ∀ p : Position, p.index axis < i → e.cells[p]? = d.cells[p]?
  cells_at : ∀ p : Position, p.index axis = i → e.cells[p]? = none
  cells_behind : ∀ p : Position, i < p.index axis →
    e.cells[p]? = d.cells[p.withIndex axis (p.index axis - 1)]?
  sizes_before : ∀ k, k < i → (e.sizes axis)[k]? = (d.sizes axis)[k]?
  sizes_at : (e.sizes axis)[i]? = none
  sizes_behind : ∀ k, i < k → (e.sizes axis)[k]? = (d.sizes axis)[k - 1]?
  length : d.length axis < Numeric.maxIndex → e.length axis = d.length axis + 1
  length_full : d.length axis = Numeric.maxIndex → e.length axis = 0
  otherSizes : ∀ b, b ≠ axis → e.sizes b = d.sizes b
  otherLength : ∀ b, b ≠ axis → e.length b = d.length b
  stored : e.cells.size = d.cells.size

/-- The second sheet is the first one with something deleted at an index: what stood behind moved
up by one, and nothing else changed. -/
structure Deleted (d e : Document) (axis : Axis) (i : Nat) : Prop where
  cells_before : ∀ p : Position, p.index axis < i → e.cells[p]? = d.cells[p]?
  cells_behind : ∀ p : Position, i ≤ p.index axis →
    e.cells[p]? = d.cells[p.withIndex axis (p.index axis + 1)]?
  sizes_before : ∀ k, k < i → (e.sizes axis)[k]? = (d.sizes axis)[k]?
  sizes_behind : ∀ k, i ≤ k → (e.sizes axis)[k]? = (d.sizes axis)[k + 1]?
  length : e.length axis + 1 = d.length axis
  otherSizes : ∀ b, b ≠ axis → e.sizes b = d.sizes b
  otherLength : ∀ b, b ≠ axis → e.length b = d.length b
  stored : e.cells.size + (d.cells.filter fun p _ => p.index axis = i).size = d.cells.size

theorem closeGap?_of_gt {k : Nat} (h : i < k) : closeGap? i k = some (k - 1) := by
  obtain ⟨k, rfl⟩ := Nat.exists_eq_add_of_le' (Nat.zero_lt_of_lt h)
  exact closeGap?_succ (Nat.le_of_lt_succ h)

theorem inserted (h : d.insert axis i = .ok e) : Inserted d e axis i := by
  have he : (AxisEdit.insert i).apply axis d = .ok e := h
  have hcells := AxisEdit.getElem?_cells_of_apply he
  have hsizes := AxisEdit.getElem?_sizes_of_apply he
  simp only [AxisEdit.source?, movePosition] at hcells hsizes
  have hlength : e.length axis = Numeric.wrapIndex (d.length axis + 1) := by
    obtain ⟨-, rfl⟩ := insert_eq_ok.mp h
    exact length_renameAxis_self d axis _ _
  refine ⟨fun p hp => ?_, fun p hp => ?_, fun p hp => ?_, fun k hk => ?_, ?_, fun k hk => ?_,
    fun hroom => hlength.trans (Numeric.wrapIndex_of_le hroom), fun hfull => ?_,
    fun _ => AxisEdit.sizes_of_apply he, fun _ => AxisEdit.length_of_apply he, ?_⟩
  · rw [hcells, closeGap?_of_lt hp, Option.map_some, Position.withIndex_index, Option.bind_some]
  · rw [hcells, hp, closeGap?_self, Option.map_none, Option.bind_none]
  · rw [hcells, closeGap?_of_gt hp, Option.map_some, Option.bind_some]
  · rw [hsizes, closeGap?_of_lt hk, Option.bind_some]
  · rw [hsizes, closeGap?_self, Option.bind_none]
  · rw [hsizes, closeGap?_of_gt hk, Option.bind_some]
  · rw [hlength, hfull, Numeric.wrapIndex_succ_maxIndex]
  · -- Every index has a place after the insertion.
    have hs := AxisEdit.size_cells_of_apply he
    have hnone : (d.cells.filter fun p _ =>
        ((AxisEdit.insert i).rename (p.index axis)).isNone).size = 0 := by
      rw [← Std.ExtTreeMap.length_toList, Std.ExtTreeMap.toList_filter]
      simp [AxisEdit.rename]
    rwa [hnone] at hs

theorem deleted (h : d.delete axis i = .ok e) : Deleted d e axis i := by
  have he : (AxisEdit.delete i).apply axis d = .ok e := h
  have hcells := AxisEdit.getElem?_cells_of_apply he
  have hsizes := AxisEdit.getElem?_sizes_of_apply he
  simp only [AxisEdit.source?, movePosition, Function.comp_apply, Option.map_some,
    Option.bind_some] at hcells hsizes
  refine ⟨fun p hp => ?_, fun p hp => ?_, fun k hk => ?_, fun k hk => ?_, ?_,
    fun _ => AxisEdit.sizes_of_apply he, fun _ => AxisEdit.length_of_apply he, ?_⟩
  · rw [hcells, openGap_of_lt hp, Position.withIndex_index]
  · rw [hcells, openGap_of_le hp]
  · rw [hsizes, openGap_of_lt hk]
  · rw [hsizes, openGap_of_le hk]
  · obtain ⟨hi, -, rfl⟩ := delete_eq_ok.mp h
    rw [length_renameAxis_self]
    omega
  · have hs := AxisEdit.size_cells_of_apply he
    have hgone : ∀ k, ((AxisEdit.delete i).rename k).isNone = decide (k = i) := by
      intro k
      by_cases hk : k = i <;> simp [AxisEdit.rename, closeGap?, hk]
    simpa only [hgone] using hs

end Document

end Spreadsheet
