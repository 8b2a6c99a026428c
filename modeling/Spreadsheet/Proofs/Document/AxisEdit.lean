import Spreadsheet.Proofs.Document.Renaming
import Spreadsheet.Proofs.Document.WellFormed

/-!
# Inserting and deleting along an axis

An `AxisEdit` inserts or deletes a row or column. One that fits the length of the axis gives the
indices new names (`AxisEdit.apply_eq_ok`), and so do two of them, one after the other
(`AxisEdit.bind_apply_eq_ok`). What two edits make of a sheet is then a matter of arithmetic on
indices: deleting undoes inserting (`insert_delete_inverse`), and edits can be exchanged
(`axis_edits_commute`).
-/

namespace Spreadsheet

open Numeric

/-! ## Indices -/

section Indices

variable {i j k m : Nat}

theorem openGap_of_lt (h : k < i) : openGap i k = k :=
  if_neg (Nat.not_le.mpr h)

theorem openGap_of_le (h : i ≤ k) : openGap i k = k + 1 :=
  if_pos h

/-- Closing a gap takes an index back to where it was before the gap was opened. -/
theorem closeGap?_eq_some_iff : closeGap? i k = some m ↔ openGap i m = k := by
  simp only [closeGap?, openGap, Option.ite_none_left_eq_some, Option.some.injEq]
  split <;> split <;> omega

theorem closeGap?_openGap (i k : Nat) : closeGap? i (openGap i k) = some k :=
  closeGap?_eq_some_iff.mpr rfl

theorem closeGap?_self (i : Nat) : closeGap? i i = none :=
  if_pos rfl

theorem closeGap?_of_lt (h : k < i) : closeGap? i k = some k :=
  closeGap?_eq_some_iff.mpr (openGap_of_lt h)

theorem closeGap?_succ (h : i ≤ k) : closeGap? i (k + 1) = some k :=
  closeGap?_eq_some_iff.mpr (openGap_of_le h)

theorem keepsApart_openGap (i : Nat) : KeepsApart (some ∘ openGap i) := by
  intro k l m hk hl
  have hkl : openGap i k = openGap i l := Option.some.inj (hk.trans hl.symm)
  rw [← Option.some_inj, ← closeGap?_openGap i k, hkl, closeGap?_openGap]

theorem keepsApart_closeGap? (i : Nat) : KeepsApart (closeGap? i) :=
  fun _ _ _ hk hl => (closeGap?_eq_some_iff.mp hk).symm.trans (closeGap?_eq_some_iff.mp hl)

theorem openGap_openGap (h : i ≤ j) (k : Nat) :
    openGap (j + 1) (openGap i k) = openGap i (openGap j k) := by
  unfold openGap
  split_ifs <;> omega

theorem bind_closeGap? (h : i ≤ j) (k : Nat) :
    (closeGap? (j + 1) k).bind (closeGap? i) = (closeGap? i k).bind (closeGap? j) := by
  -- Read backwards, closing two gaps is opening them.
  refine Option.ext fun m => ?_
  simp only [Option.bind_eq_some_iff, closeGap?_eq_some_iff]
  constructor
  · rintro ⟨_, hk, rfl⟩
    exact ⟨openGap j m, by rw [← hk, openGap_openGap h], rfl⟩
  · rintro ⟨_, hk, rfl⟩
    exact ⟨openGap i m, by rw [← hk, openGap_openGap h], rfl⟩

theorem closeGap?_succ_openGap (h : i ≤ j) (k : Nat) :
    closeGap? (j + 1) (openGap i k) = (closeGap? j k).map (openGap i) := by
  -- Index `j` itself is the one that goes; it stands at `j + 1` once the gap is open.
  rcases Nat.lt_trichotomy k j with hk | rfl | hk
  · have hlt : openGap i k < j + 1 := openGap_lt hk
    rw [closeGap?_of_lt hk, closeGap?_of_lt hlt, Option.map_some]
  · rw [openGap_of_le h, closeGap?_self, closeGap?_self, Option.map_none]
  · obtain ⟨k, rfl⟩ := Nat.exists_eq_add_of_le' (Nat.zero_lt_of_lt hk)
    rw [openGap_of_le (by omega), closeGap?_succ hk, closeGap?_succ (by omega), Option.map_some,
      openGap_of_le (by omega)]

theorem closeGap?_openGap_succ (h : j ≤ i) (k : Nat) :
    closeGap? j (openGap (i + 1) k) = (closeGap? j k).map (openGap i) := by
  rcases Nat.lt_trichotomy k j with hk | rfl | hk
  · rw [openGap_of_lt (by omega), closeGap?_of_lt hk, Option.map_some, openGap_of_lt (by omega)]
  · rw [openGap_of_lt (by omega), closeGap?_self, Option.map_none]
  · obtain ⟨k, rfl⟩ := Nat.exists_eq_add_of_le' (Nat.zero_lt_of_lt hk)
    have hle : j ≤ openGap i k := by
      unfold openGap
      split <;> omega
    rw [closeGap?_succ (by omega), Option.map_some, closeGap?_eq_some_iff, openGap_of_le hle]
    unfold openGap
    split_ifs <;> omega

theorem map_openGap_closeGap? (i k : Nat) :
    (closeGap? i k).map (openGap i) = if k ≠ i then some k else none := by
  rcases Nat.lt_trichotomy k i with hk | rfl | hk
  · rw [closeGap?_of_lt hk, Option.map_some, openGap_of_lt hk, if_pos (by omega)]
  · rw [closeGap?_self, Option.map_none, if_neg (by omega)]
  · obtain ⟨k, rfl⟩ := Nat.exists_eq_add_of_le' (Nat.zero_lt_of_lt hk)
    rw [closeGap?_succ (by omega), Option.map_some, openGap_of_le (by omega), if_pos (by omega)]

end Indices

/-! ## Edits of an axis -/

/-- An edit of the rows or of the columns of a sheet. -/
inductive AxisEdit where
  | insert (index : Nat)
  | delete (index : Nat)

namespace AxisEdit

variable {d e : Document} {axis : Axis}

/-- Makes the edit. -/
def apply (o : AxisEdit) (axis : Axis) (d : Document) : Except Document.Error Document :=
  match o with
  | .insert index => d.insert axis index
  | .delete index => d.delete axis index

/-- Whether the edit can be made along an axis of some length. -/
def Fits (length : Nat) : AxisEdit → Prop
  | .insert index => index ≤ length
  | .delete index => index < length ∧ length ≠ 1

/-- Whether there is an index left for the length after the edit. -/
def FindsRoom (length : Nat) : AxisEdit → Prop
  | .insert _ => length < maxIndex
  | .delete _ => True

/-- The length of an axis after the edit. -/
def lengthAfter (length : Nat) : AxisEdit → Nat
  | .insert _ => wrapIndex (length + 1)
  | .delete _ => length - 1

theorem lengthAfter_insert {n : Nat} (h : n < maxIndex) (i : Nat) :
    (insert i).lengthAfter n = n + 1 :=
  wrapIndex_of_le h

theorem lengthAfter_insert_maxIndex (i : Nat) : (insert i).lengthAfter maxIndex = 0 :=
  wrapIndex_succ_maxIndex

theorem lengthAfter_delete_insert {n : Nat} (hpos : 1 ≤ n) (hn : n ≤ maxIndex) (i j : Nat) :
    (insert i).lengthAfter ((delete j).lengthAfter n) = n := by
  simp only [lengthAfter]
  rw [Nat.sub_add_cancel hpos, wrapIndex_of_le hn]

/-- Where the edit takes an index. -/
def rename : AxisEdit → Nat → Option Nat
  | .insert index => some ∘ openGap index
  | .delete index => closeGap? index

theorem keepsApart_rename : ∀ o : AxisEdit, KeepsApart o.rename
  | .insert index => keepsApart_openGap index
  | .delete index => keepsApart_closeGap? index

/-- Where the edit is made. -/
def index : AxisEdit → Nat
  | .insert index => index
  | .delete index => index

theorem Fits.index_le {o : AxisEdit} {n : Nat} (h : o.Fits n) (hroom : o.FindsRoom n) :
    o.index ≤ n ∧ o.index ≤ o.lengthAfter n := by
  cases o with
  | insert index =>
    rw [lengthAfter_insert hroom]
    exact ⟨h, Nat.le_succ_of_le h⟩
  | delete index => exact ⟨Nat.le_of_lt h.1, Nat.le_sub_one_of_lt h.1⟩

theorem rename_of_lt {o : AxisEdit} {k : Nat} (h : k < o.index) : o.rename k = some k := by
  cases o with
  | insert index => exact congrArg some (openGap_of_lt h)
  | delete index => exact closeGap?_of_lt h

theorem apply_eq_ok {o : AxisEdit} : o.apply axis d = .ok e ↔ o.Fits (d.length axis) ∧
    e = d.renameAxis axis (o.lengthAfter (d.length axis)) o.rename := by
  cases o with
  | insert index => exact Document.insert_eq_ok
  | delete index => exact Document.delete_eq_ok.trans and_assoc.symm

theorem wellFormed (h : d.WellFormed) {o : AxisEdit} (hroom : o.FindsRoom (d.length axis))
    (he : o.apply axis d = .ok e) : e.WellFormed := by
  cases o with
  | insert index => exact h.insert hroom he
  | delete index => exact h.delete he

/-- Two edits of one axis; the second is made on the length that the first leaves. -/
theorem bind_apply_eq_ok (o o' : AxisEdit) : o.apply axis d >>= o'.apply axis = .ok e ↔
    (o.Fits (d.length axis) ∧ o'.Fits (o.lengthAfter (d.length axis))) ∧
      e = d.renameAxis axis (o'.lengthAfter (o.lengthAfter (d.length axis)))
        fun k => (o.rename k).bind o'.rename := by
  simp only [bind_eq_ok, apply_eq_ok]
  constructor
  · rintro ⟨f, ⟨ho, rfl⟩, ho', rfl⟩
    rw [Document.length_renameAxis_self] at ho' ⊢
    exact ⟨⟨ho, ho'⟩, Document.renameAxis_renameAxis o.keepsApart_rename o'.keepsApart_rename⟩
  · rintro ⟨⟨ho, ho'⟩, rfl⟩
    refine ⟨_, ⟨ho, rfl⟩, ?_⟩
    rw [Document.length_renameAxis_self]
    exact ⟨ho', (Document.renameAxis_renameAxis o.keepsApart_rename o'.keepsApart_rename).symm⟩

/-- Two edits of different axes do not see each other. -/
theorem bind_apply_eq_ok_of_ne (o o' : AxisEdit) {a b : Axis} (h : a ≠ b) :
    o.apply a d >>= o'.apply b = .ok e ↔
      (o.Fits (d.length a) ∧ o'.Fits (d.length b)) ∧
        e = (d.renameAxis a (o.lengthAfter (d.length a)) o.rename).renameAxis b
          (o'.lengthAfter (d.length b)) o'.rename := by
  simp only [bind_eq_ok, apply_eq_ok]
  constructor
  · rintro ⟨f, ⟨ho, rfl⟩, ho', rfl⟩
    rw [Document.length_renameAxis_of_ne d h] at ho' ⊢
    exact ⟨⟨ho, ho'⟩, rfl⟩
  · rintro ⟨⟨ho, ho'⟩, rfl⟩
    refine ⟨_, ⟨ho, rfl⟩, ?_⟩
    rw [Document.length_renameAxis_of_ne d h]
    exact ⟨ho', rfl⟩

/-- Two pairs of edits that fit make the same sheet if they leave the same length and take every
index to the same place. -/
theorem exists_eq_ok_of_rename_eq (o₁ o₂ o₃ o₄ : AxisEdit) {n : Nat} (hn : d.length axis = n)
    (h₁₂ : o₁.Fits n ∧ o₂.Fits (o₁.lengthAfter n)) (h₃₄ : o₃.Fits n ∧ o₄.Fits (o₃.lengthAfter n))
    (hl : o₂.lengthAfter (o₁.lengthAfter n) = o₄.lengthAfter (o₃.lengthAfter n))
    (hr : ∀ k, (o₁.rename k).bind o₂.rename = (o₃.rename k).bind o₄.rename) :
    ∃ e, o₁.apply axis d >>= o₂.apply axis = .ok e ∧ o₃.apply axis d >>= o₄.apply axis = .ok e := by
  subst hn
  refine ⟨_, (bind_apply_eq_ok o₁ o₂).mpr ⟨h₁₂, rfl⟩, (bind_apply_eq_ok o₃ o₄).mpr ⟨h₃₄, ?_⟩⟩
  rw [hl, funext hr]

end AxisEdit

namespace Document

variable {d : Document} {axis : Axis} {i j : Nat}

/-! ## Undoing an edit -/

theorem insert_bind_delete (hd : 1 ≤ d.length axis) (hroom : d.length axis < maxIndex)
    (hi : i ≤ d.length axis) : d.insert axis i >>= (·.delete axis i) = .ok d := by
  have hl := AxisEdit.lengthAfter_insert hroom i
  refine (AxisEdit.bind_apply_eq_ok (.insert i) (.delete i)).mpr ⟨⟨hi, ?_⟩, ?_⟩
  · rw [hl]
    exact ⟨Nat.lt_succ_of_le hi, Nat.succ_ne_succ_iff.mpr (Nat.ne_of_gt hd)⟩
  · have hr : (fun k => ((AxisEdit.insert i).rename k).bind (AxisEdit.delete i).rename) = some :=
      funext (closeGap?_openGap i)
    rw [hr, hl]
    exact renameAxis_some.symm

/-- An insertion that finds no room leaves a length of zero. -/
theorem insert_of_full (hn : d.length axis = maxIndex) (hi : i ≤ d.length axis) :
    ∃ e, d.insert axis i = .ok e ∧ e.length axis = 0 := by
  refine ⟨_, insert_eq_ok.mpr ⟨hi, rfl⟩, ?_⟩
  rw [length_renameAxis_self, hn, wrapIndex_succ_maxIndex]

theorem delete_of_le (hi : d.length axis ≤ i) :
    d.delete axis i = .error (.outsideAxis axis i (d.length axis)) :=
  if_pos hi

/-- The sheet without what it stores in a row or column: the cells there, and its size. -/
def clearLine (d : Document) (axis : Axis) (index : Nat) : Document :=
  { d.withAxis axis (d.length axis) ((d.sizes axis).erase index) with
    cells := d.cells.filter fun p _ => p.index axis ≠ index }

theorem filter_ne_eq_erase (sizes : Sizes) (index : Nat) :
    sizes.filter (fun k _ => k ≠ index) = sizes.erase index := by
  refine Std.ExtTreeMap.ext_getElem? fun k => Option.ext fun x => ?_
  rw [Std.ExtTreeMap.getElem?_filter', Option.filter_eq_some_iff, Std.ExtTreeMap.getElem?_erase]
  by_cases hk : k = index
  · subst hk
    simp
  · have hc : compare index k ≠ .eq := fun hc => hk (Std.LawfulEqCmp.eq_of_compare hc).symm
    rw [if_neg hc]
    simp [hk]

theorem renameAxis_eq_clearLine (d : Document) (axis : Axis) (index : Nat) :
    d.renameAxis axis (d.length axis) (fun k => if k ≠ index then some k else none) =
      d.clearLine axis index := by
  -- Both maps are renamed by a function that keeps some keys as they are and gives up the others.
  have hm : movePosition axis (fun k => if k ≠ index then some k else none) =
      fun p => if p.index axis ≠ index then some p else none := by
    funext p
    simp only [movePosition]
    by_cases hp : p.index axis ≠ index
    · rw [if_pos hp, if_pos hp, Option.map_some, Position.withIndex_index]
    · rw [if_neg hp, if_neg hp, Option.map_none]
  refine ext_along (fun b => ?_) (fun b => ?_) ?_
  · rw [length_renameAxis, ← length_withAxis d axis b _ ((d.sizes axis).erase index)]
    exact (length_withCells _ _ b).symm
  · rw [sizes_renameAxis, rekey_eq_filter, filter_ne_eq_erase, ← sizes_withAxis d axis b]
    exact (sizes_withCells _ _ b).symm
  · rw [cells_renameAxis, hm, rekey_eq_filter, clearLine]

theorem delete_bind_insert (hd : 2 ≤ d.length axis) (hn : d.length axis ≤ maxIndex)
    (hi : i < d.length axis) :
    d.delete axis i >>= (·.insert axis i) = .ok (d.clearLine axis i) := by
  refine (AxisEdit.bind_apply_eq_ok (.delete i) (.insert i)).mpr ⟨⟨⟨hi, ?_⟩, ?_⟩, ?_⟩
  · exact Nat.ne_of_gt hd
  · exact Nat.le_sub_one_of_lt hi
  · have hr : (fun k => ((AxisEdit.delete i).rename k).bind (AxisEdit.insert i).rename) =
        fun k => if k ≠ i then some k else none :=
      funext fun k => (Option.map_eq_bind ..).symm.trans (map_openGap_closeGap? i k)
    rw [hr, AxisEdit.lengthAfter_delete_insert (Nat.le_of_succ_le hd) hn, renameAxis_eq_clearLine]

/-- A sheet of three rows and two columns with a cell in every row and a size on both axes. -/
def threeRows : Document :=
  (Document.empty 3 2).run [.setCell ⟨0, 0⟩ (.number 4) none, .setCell ⟨1, 1⟩ (.text "a") none,
    .setCell ⟨2, 0⟩ .empty (some "=A1"), .setSize .row 1 30, .setSize .column 0 90]

theorem wellFormed_threeRows : threeRows.WellFormed :=
  (WellFormed.empty 3 2).run_short (by decide) (by decide)

/-- A sheet with as many rows as an index can count. -/
def full : Document := Document.empty maxIndex 1

theorem length_full : full.length .row = maxIndex := by
  decide

theorem toOption_eq_some_iff {ε α : Type} {x : Except ε α} {a : α} :
    x.toOption = some a ↔ x = .ok a := by
  cases x <;> simp [Except.toOption]

theorem toOption_apply_comm (d : Document) (o o' : AxisEdit) {a b : Axis} (h : a ≠ b) :
    (o.apply a d >>= o'.apply b).toOption = (o'.apply b d >>= o.apply a).toOption := by
  refine Option.ext fun e => ?_
  rw [toOption_eq_some_iff, toOption_eq_some_iff, AxisEdit.bind_apply_eq_ok_of_ne o o' h,
    AxisEdit.bind_apply_eq_ok_of_ne o' o h.symm, and_comm (a := o'.Fits _),
    renameAxis_comm h o.keepsApart_rename o'.keepsApart_rename]

/-- An insertion that finds no room leaves nothing to delete, and nothing to insert behind. -/
theorem not_exists_of_full {o : AxisEdit} (hn : d.length axis = maxIndex)
    (ho : ¬ o.Fits 0) (x : Except Error Document) :
    ¬ ∃ e, d.insert axis i >>= o.apply axis = .ok e ∧ x = .ok e := by
  rintro ⟨e, he, -⟩
  obtain ⟨⟨-, hfits⟩, -⟩ := (AxisEdit.bind_apply_eq_ok (.insert i) o).mp he
  rw [hn, AxisEdit.lengthAfter_insert_maxIndex] at hfits
  exact ho hfits

/-- What holds where there is room, and not where there is none, holds exactly where there is. -/
theorem iff_lt_maxIndex {P : Prop} {n : Nat} (hn : n ≤ maxIndex) (room : n < maxIndex → P)
    (full : n = maxIndex → ¬ P) : P ↔ n < maxIndex :=
  ⟨fun hp => Nat.lt_of_le_of_ne hn fun h => full h hp, room⟩

theorem insert_insert (hn : d.length axis ≤ maxIndex) (hij : i ≤ j) (hj : j ≤ d.length axis) :
    (∃ e, d.insert axis i >>= (·.insert axis (j + 1)) = .ok e ∧
      d.insert axis j >>= (·.insert axis i) = .ok e) ↔ d.length axis < maxIndex := by
  refine iff_lt_maxIndex hn (fun hroom => ?_) fun hfull =>
    not_exists_of_full (o := .insert (j + 1)) hfull (Nat.not_succ_le_zero j) _
  refine AxisEdit.exists_eq_ok_of_rename_eq (.insert i) (.insert (j + 1)) (.insert j) (.insert i)
    rfl ?_ ?_ rfl fun k => congrArg some (openGap_openGap hij k)
  · rw [AxisEdit.lengthAfter_insert hroom]
    exact ⟨hij.trans hj, Nat.succ_le_succ hj⟩
  · rw [AxisEdit.lengthAfter_insert hroom]
    exact ⟨hj, Nat.le_succ_of_le (hij.trans hj)⟩

theorem delete_delete (hij : i ≤ j) (hj : j + 1 < d.length axis) (hd : 3 ≤ d.length axis) :
    ∃ e, d.delete axis (j + 1) >>= (·.delete axis i) = .ok e ∧
      d.delete axis i >>= (·.delete axis j) = .ok e := by
  refine AxisEdit.exists_eq_ok_of_rename_eq (.delete (j + 1)) (.delete i) (.delete i) (.delete j)
    rfl ?_ ?_ rfl (bind_closeGap? hij)
  all_goals
    simp only [AxisEdit.Fits, AxisEdit.lengthAfter]
    omega

theorem not_fits_delete_zero (i : Nat) : ¬ (AxisEdit.delete i).Fits 0 :=
  fun h => Nat.not_lt_zero i h.1

/-- An insertion and then a deletion is a deletion and then an insertion if they take every index to
the same place, exactly where the insertion that is made first finds room. -/
theorem insert_delete_iff (hn : d.length axis ≤ maxIndex) (hd : 2 ≤ d.length axis) {k l : Nat}
    (h : i ≤ d.length axis ∧ j ≤ d.length axis) (h' : k < d.length axis ∧ l < d.length axis)
    (hr : ∀ m, ((AxisEdit.insert i).rename m).bind (AxisEdit.delete j).rename =
      ((AxisEdit.delete k).rename m).bind (AxisEdit.insert l).rename) :
    (∃ e, d.insert axis i >>= (·.delete axis j) = .ok e ∧
      d.delete axis k >>= (·.insert axis l) = .ok e) ↔ d.length axis < maxIndex := by
  refine iff_lt_maxIndex hn (fun hroom => ?_) fun hfull =>
    not_exists_of_full (o := .delete j) hfull (not_fits_delete_zero j) _
  have hl := AxisEdit.lengthAfter_insert hroom i
  refine AxisEdit.exists_eq_ok_of_rename_eq (.insert i) (.delete j) (.delete k) (.insert l)
    rfl ⟨h.1, ?_⟩ ⟨⟨h'.1, Nat.ne_of_gt hd⟩, Nat.le_sub_one_of_lt h'.2⟩ ?_ hr
  · rw [hl]
    exact ⟨Nat.lt_succ_of_le h.2, Nat.succ_ne_succ_iff.mpr (Nat.ne_of_gt (Nat.le_of_succ_le hd))⟩
  · rw [hl, AxisEdit.lengthAfter_delete_insert (Nat.le_of_succ_le hd) hn]
    rfl

theorem insert_delete (hn : d.length axis ≤ maxIndex) (hij : i ≤ j) (hj : j < d.length axis)
    (hd : 2 ≤ d.length axis) :
    (∃ e, d.insert axis i >>= (·.delete axis (j + 1)) = .ok e ∧
      d.delete axis j >>= (·.insert axis i) = .ok e) ↔ d.length axis < maxIndex := by
  have hi : i < d.length axis := Nat.lt_of_le_of_lt hij hj
  exact insert_delete_iff hn hd ⟨Nat.le_of_lt hi, hj⟩ ⟨hj, hi⟩ fun k =>
    (closeGap?_succ_openGap hij k).trans (Option.map_eq_bind ..)

theorem insert_succ_delete (hn : d.length axis ≤ maxIndex) (hji : j ≤ i) (hi : i < d.length axis)
    (hd : 2 ≤ d.length axis) :
    (∃ e, d.insert axis (i + 1) >>= (·.delete axis j) = .ok e ∧
      d.delete axis j >>= (·.insert axis i) = .ok e) ↔ d.length axis < maxIndex := by
  have hj : j < d.length axis := Nat.lt_of_le_of_lt hji hi
  exact insert_delete_iff hn hd ⟨hi, Nat.le_of_lt hj⟩ ⟨hj, hi⟩ fun k =>
    (closeGap?_openGap_succ hji k).trans (Option.map_eq_bind ..)

end Document

end Spreadsheet
