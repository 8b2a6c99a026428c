import Spreadsheet.Proofs.Document.Edit

/-!
# Renaming keys and axes

Inserting and deleting give the indices of an axis new names. A renaming that keeps indices apart
moves the cells and sizes of a sheet without losing any that has a new name, so what is stored is
known from the renaming alone (`getElem?_rekey`, `getElem?_renameAxis`), and two renamings one after
the other are one (`renameAxis_renameAxis`). Renamings of different axes can be exchanged
(`renameAxis_comm`).
-/

namespace Spreadsheet

section Maps

variable {κ α : Type}

/-- Whether no two keys get the same new name. -/
def KeepsApart (rename : κ → Option κ) : Prop :=
  ∀ ⦃k l m : κ⦄, rename k = some m → rename l = some m → k = l

theorem keepsApart_some : KeepsApart (some : κ → Option κ) :=
  fun _ _ _ hk hl => Option.some.inj (hk.trans hl.symm)

theorem KeepsApart.bind {f g : κ → Option κ} (hf : KeepsApart f) (hg : KeepsApart g) :
    KeepsApart fun k => (f k).bind g := by
  intro k l m hk hl
  obtain ⟨k', hk, hk'⟩ := Option.bind_eq_some_iff.mp hk
  obtain ⟨l', hl, hl'⟩ := Option.bind_eq_some_iff.mp hl
  rw [← hg hk' hl'] at hl
  exact hf hk hl

namespace Document

variable {order : κ → κ → Ordering} [Std.TransCmp order] [Std.LawfulEqCmp order]
  {entries : Std.ExtTreeMap κ α order} {f g rename : κ → Option κ} {k l : κ} {x : α}

theorem mem_filterMap_rename : (k, x) ∈ entries.toList.filterMap
    (fun e => (rename e.1).map (·, e.2)) ↔ ∃ l, rename l = some k ∧ entries[l]? = some x := by
  simp only [List.mem_filterMap, Prod.exists, Std.ExtTreeMap.mem_toList_iff_getElem?_eq_some,
    Option.map_eq_some_iff, Prod.mk.injEq]
  constructor
  · rintro ⟨l, y, hl, m, hm, rfl, rfl⟩
    exact ⟨l, hm, hl⟩
  · rintro ⟨l, hl, hx⟩
    exact ⟨l, x, hx, k, hl, rfl, rfl⟩

theorem getElem?_rekey_eq_some_iff (h : KeepsApart rename) :
    (rekey rename entries)[k]? = some x ↔ ∃ l, rename l = some k ∧ entries[l]? = some x := by
  have hr : rekey rename entries =
      .ofList (entries.toList.filterMap fun e => (rename e.1).map (·, e.2)) order := rfl
  rw [hr, getElem?_ofList_iff, mem_filterMap_rename]
  intro y hx hy
  obtain ⟨l, hl, hx⟩ := mem_filterMap_rename.mp hx
  obtain ⟨m, hm, hy⟩ := mem_filterMap_rename.mp hy
  rw [h hm hl] at hy
  exact Option.some.inj (hx.symm.trans hy)

/-- What was stored for a key is stored for its new name. -/
theorem getElem?_rekey (h : KeepsApart rename) (hk : rename k = some l) :
    (rekey rename entries)[l]? = entries[k]? := by
  refine Option.ext fun x => ?_
  rw [getElem?_rekey_eq_some_iff h]
  constructor
  · rintro ⟨k', hk', hx⟩
    rwa [h hk hk']
  · intro hx
    exact ⟨k, hk, hx⟩

theorem rekey_rekey (hf : KeepsApart f) (hg : KeepsApart g) :
    rekey g (rekey f entries) = rekey (fun k => (f k).bind g) entries := by
  refine Std.ExtTreeMap.ext_getElem? fun m => Option.ext fun x => ?_
  simp only [getElem?_rekey_eq_some_iff hg, getElem?_rekey_eq_some_iff hf,
    getElem?_rekey_eq_some_iff (hf.bind hg), Option.bind_eq_some_iff]
  constructor
  · rintro ⟨l, hl, k, hk, hx⟩
    exact ⟨k, ⟨l, hk, hl⟩, hx⟩
  · rintro ⟨k, ⟨l, hk, hl⟩, hx⟩
    exact ⟨l, hl, k, hk, hx⟩

/-- A renaming that keeps some names and gives the others up keeps some entries. -/
theorem rekey_eq_filter (keep : κ → Prop) [DecidablePred keep] :
    rekey (fun k => if keep k then some k else none) entries =
      entries.filter fun k _ => keep k := by
  have h : KeepsApart fun k => if keep k then some k else none := by
    intro k l m hk hl
    simp only [Option.ite_none_right_eq_some, Option.some.injEq] at hk hl
    rw [hk.2, hl.2]
  refine Std.ExtTreeMap.ext_getElem? fun m => Option.ext fun x => ?_
  rw [getElem?_rekey_eq_some_iff h, Std.ExtTreeMap.getElem?_filter', Option.filter_eq_some_iff]
  simp only [Option.ite_none_right_eq_some, Option.some.injEq, decide_eq_true_eq]
  constructor
  · rintro ⟨l, ⟨hl, rfl⟩, hx⟩
    exact ⟨hx, hl⟩
  · rintro ⟨hx, hm⟩
    exact ⟨m, ⟨hm, rfl⟩, hx⟩

theorem rekey_some : rekey some entries = entries :=
  Std.ExtTreeMap.ext_getElem? fun _ => getElem?_rekey keepsApart_some rfl

end Document

end Maps

/-! ## Positions -/

theorem Position.withIndex_index (p : Position) (axis : Axis) :
    p.withIndex axis (p.index axis) = p := by
  cases axis <;> rfl

theorem Position.withIndex_withIndex (p : Position) (axis : Axis) (i j : Nat) :
    (p.withIndex axis i).withIndex axis j = p.withIndex axis j := by
  cases axis <;> rfl

theorem Position.withIndex_comm (p : Position) {a b : Axis} (h : a ≠ b) (i j : Nat) :
    (p.withIndex a i).withIndex b j = (p.withIndex b j).withIndex a i := by
  cases a <;> cases b <;> first | rfl | exact absurd rfl h

namespace Document

/-- Where a renaming of an axis takes a position. -/
def movePosition (axis : Axis) (rename : Nat → Option Nat) (p : Position) : Option Position :=
  (rename (p.index axis)).map (p.withIndex axis)

variable {d e : Document} {a b axis : Axis} {m n : Nat} {f g rename : Nat → Option Nat}

theorem keepsApart_movePosition (axis : Axis) (h : KeepsApart rename) :
    KeepsApart (movePosition axis rename) := by
  intro p q r hp hq
  obtain ⟨i, hi, rfl⟩ := Option.map_eq_some_iff.mp hp
  obtain ⟨j, hj, hr⟩ := Option.map_eq_some_iff.mp hq
  have hij : j = i := by
    have := congrArg (Position.index · axis) hr
    simpa only [Position.index_withIndex, if_pos] using this
  subst hij
  have hpq : p.index axis = q.index axis := h hi hj
  -- The two agree on the axis, and off it neither was changed.
  have := congrArg (Position.withIndex · axis (p.index axis)) hr
  simp only [Position.withIndex_withIndex] at this
  rw [hpq, Position.withIndex_index, ← hpq, Position.withIndex_index] at this
  exact this.symm

theorem bind_movePosition (p : Position) :
    (movePosition axis f p).bind (movePosition axis g) =
      movePosition axis (fun i => (f i).bind g) p := by
  unfold movePosition
  cases hf : f (p.index axis) with
  | none => simp only [hf, Option.map_none, Option.bind_none]
  | some i =>
    have hw : (p.withIndex axis i).withIndex axis = p.withIndex axis :=
      funext (p.withIndex_withIndex axis i)
    simp only [hf, Option.map_some, Option.bind_some, Position.index_withIndex, if_pos, hw]

theorem bind_movePosition_comm (h : a ≠ b) (p : Position) :
    (movePosition a f p).bind (movePosition b g) =
      (movePosition b g p).bind (movePosition a f) := by
  unfold movePosition
  cases hf : f (p.index a) <;> cases hg : g (p.index b) <;>
    simp [Position.index_withIndex, h, h.symm, hf, hg, p.withIndex_comm h]

/-! ## Sheets -/

theorem ext_along (length : ∀ axis, d.length axis = e.length axis)
    (sizes : ∀ axis, d.sizes axis = e.sizes axis) (cells : d.cells = e.cells) : d = e := by
  obtain ⟨rows, cols, c, widths, heights⟩ := d
  obtain ⟨rows', cols', c', widths', heights'⟩ := e
  obtain rfl : rows = rows' := length .row
  obtain rfl : cols = cols' := length .column
  obtain rfl : heights = heights' := sizes .row
  obtain rfl : widths = widths' := sizes .column
  obtain rfl : c = c' := cells
  rfl

theorem length_renameAxis_self (d : Document) (axis : Axis) (n : Nat)
    (rename : Nat → Option Nat) : (d.renameAxis axis n rename).length axis = n :=
  (length_renameAxis d axis axis n rename).trans (if_pos rfl)

theorem length_renameAxis_of_ne (d : Document) (h : a ≠ b) (n : Nat) (rename : Nat → Option Nat) :
    (d.renameAxis a n rename).length b = d.length b :=
  (length_renameAxis d a b n rename).trans (if_neg h)

theorem cells_renameAxis (d : Document) (axis : Axis) (n : Nat) (rename : Nat → Option Nat) :
    (d.renameAxis axis n rename).cells = rekey (movePosition axis rename) d.cells :=
  rfl

/-- What was stored at a position is stored where the renaming takes it. -/
theorem getElem?_renameAxis (h : KeepsApart rename) {p q : Position}
    (hp : movePosition axis rename p = some q) :
    (d.renameAxis axis n rename).cells[q]? = d.cells[p]? :=
  getElem?_rekey (keepsApart_movePosition axis h) hp

theorem renameAxis_renameAxis (hf : KeepsApart f) (hg : KeepsApart g) :
    (d.renameAxis axis n f).renameAxis axis m g =
      d.renameAxis axis m fun i => (f i).bind g := by
  refine ext_along (fun b => ?_) (fun b => ?_) ?_
  · simp only [length_renameAxis]
    split <;> rfl
  · simp only [sizes_renameAxis, if_pos, rekey_rekey hf hg]
    split <;> rfl
  · simp only [cells_renameAxis,
      rekey_rekey (keepsApart_movePosition axis hf) (keepsApart_movePosition axis hg),
      bind_movePosition]

/-- Renamings of different axes can be made in either order. -/
theorem renameAxis_comm (h : a ≠ b) (hf : KeepsApart f) (hg : KeepsApart g) :
    (d.renameAxis a n f).renameAxis b m g = (d.renameAxis b m g).renameAxis a n f := by
  refine ext_along (fun c => ?_) (fun c => ?_) ?_
  · simp only [length_renameAxis]
    grind
  · simp only [sizes_renameAxis]
    grind
  · have hf' := keepsApart_movePosition a hf
    have hg' := keepsApart_movePosition b hg
    simp only [cells_renameAxis, rekey_rekey hf' hg', rekey_rekey hg' hf',
      bind_movePosition_comm h]

theorem renameAxis_some : d.renameAxis axis (d.length axis) some = d := by
  have hm : movePosition axis some = some := funext fun p => by
    simp only [movePosition, Option.map_some, Position.withIndex_index]
  refine ext_along (fun b => ?_) (fun b => ?_) ?_
  · rw [length_renameAxis]
    split
    · rename_i hb
      rw [hb]
    · rfl
  · rw [sizes_renameAxis, rekey_some]
    split
    · rename_i hb
      rw [hb]
    · rfl
  · rw [cells_renameAxis, hm, rekey_some]

end Document

end Spreadsheet
