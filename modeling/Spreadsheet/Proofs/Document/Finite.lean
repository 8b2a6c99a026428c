import Spreadsheet.Proofs.Document.Run
import Spreadsheet.Proofs.Formula.Finite
import Spreadsheet.Proofs.Json.Decode
import Spreadsheet.Proofs.Snapshot.Load

/-!
# Documents with finite numbers

The numbers that a document stores stay finite (`isFinite_run`): typed numbers are checked, the
values of formulas are finite or zero, and a number read from JSON is finite. Only numbers that an
edit brings along have to be supposed finite.
-/

namespace Spreadsheet

/-! ## Finite numbers -/

def Format.IsFinite (f : Format) : Prop := ∀ x ∈ f.fontSize, x.isFinite

structure Cell.IsFinite (c : Cell) : Prop where
  value : c.value.IsFinite
  format : ∀ f ∈ c.format, f.IsFinite

structure Document.IsFinite (d : Document) : Prop where
  cells : ∀ {p : Position} {c : Cell}, d.cells[p]? = some c → c.IsFinite
  sizes : ∀ {axis : Axis} {i : Nat} {x : Float}, (d.sizes axis)[i]? = some x → x.isFinite

structure Snapshot.IsFinite (s : Snapshot) : Prop where
  cells : ∀ {k : String} {c : Cell}, s.cells[k]? = some c → c.IsFinite
  widths : ∀ {i : Nat} {x : Float}, s.widths[i]? = some x → x.isFinite
  heights : ∀ {i : Nat} {x : Float}, s.heights[i]? = some x → x.isFinite

theorem Value.isFinite_ofInput (input : String) : (Value.ofInput input).IsFinite := by
  unfold Value.ofInput
  simp only
  split
  · trivial
  · split
    · split
      · assumption
      · trivial
    · trivial

theorem Format.isFinite_overlay {base patch : Format} (hb : base.IsFinite) (hp : patch.IsFinite) :
    (base.overlay patch).IsFinite := by
  intro x hx
  cases h : patch.fontSize with
  | some y => exact hp x (by simpa [Format.overlay, h] using hx)
  | none => exact hb x (by simpa [Format.overlay, h] using hx)

theorem Cell.isFinite_default : ({} : Cell).IsFinite := ⟨trivial, nofun⟩

theorem Cell.isFinite_ofInput (input : String) : (Cell.ofInput input).value.IsFinite := by
  unfold Cell.ofInput
  split
  · trivial
  · exact Value.isFinite_ofInput input

/-! ## Edits -/

namespace Document

/-- Whether the numbers that an edit brings along are finite. -/
def Operation.IsFinite : Operation → Prop
  | .setCell _ value _ => value.IsFinite
  | .setFormat _ format => format.IsFinite
  | .setSize _ _ size => size.isFinite
  | _ => True

namespace IsFinite

variable {d e : Document}

theorem cell (h : d.IsFinite) (p : Position) : (d.cell p).IsFinite := by
  unfold Document.cell
  cases hp : d.cells[p]? with
  | none => exact Cell.isFinite_default
  | some c => exact h.cells hp

theorem evaluate (h : d.IsFinite) (formula : String) (p : Position) :
    (d.evaluate formula p).IsFinite :=
  Formula.isFinite_evaluate (fun q => (h.cell q).value) formula

theorem withCells (h : d.IsFinite) {cells : Cells}
    (hc : ∀ {p : Position} {c : Cell}, cells[p]? = some c → c.IsFinite) :
    IsFinite { d with cells } where
  cells := hc
  sizes {axis i x} hi := by
    rw [sizes_withCells] at hi
    exact h.sizes hi

theorem put (h : d.IsFinite) (p : Position) {c : Cell} (hc : c.IsFinite) :
    (d.put p c).IsFinite := by
  refine h.withCells fun hq => ?_
  rcases of_getElem?_putCell hq with ⟨-, rfl, -⟩ | hq
  · exact hc
  · exact h.cells hq

theorem mapCells (h : d.IsFinite) {f : Position → Cell → Cell}
    (hf : ∀ p c, c.IsFinite → (f p c).IsFinite) : IsFinite { d with cells := d.cells.map f } := by
  refine h.withCells fun hq => ?_
  rw [Std.ExtTreeMap.getElem?_map, Option.map_eq_some_iff] at hq
  obtain ⟨c, hc, rfl⟩ := hq
  exact hf _ c (h.cells hc)

theorem renameAxis (h : d.IsFinite) (axis : Axis) (n : Nat) (rename : Nat → Option Nat) :
    (d.renameAxis axis n rename).IsFinite where
  cells hq := by
    obtain ⟨p, i, -, -, hp⟩ := of_getElem?_renameAxis hq
    exact h.cells hp
  sizes {b i x} hi := by
    rw [sizes_renameAxis] at hi
    split at hi
    · obtain ⟨l, -, hx⟩ := exists_of_getElem?_rekey hi
      exact h.sizes hx
    · exact h.sizes hi

theorem setCell (h : d.IsFinite) {p : Position} {value : Value} {formula : Option String}
    (hv : value.IsFinite) (he : d.setCell p value formula = .ok e) : e.IsFinite := by
  obtain ⟨-, rfl⟩ := setCell_eq_ok.mp he
  exact h.put p ⟨hv, (h.cell p).format⟩

theorem evaluateCell (h : d.IsFinite) {p : Position} (he : d.evaluateCell p = .ok e) :
    e.IsFinite := by
  obtain ⟨-, ⟨-, rfl⟩ | ⟨formula, -, rfl⟩⟩ := evaluateCell_eq_ok.mp he
  · exact h
  · exact h.put p ⟨h.evaluate formula p, (h.cell p).format⟩

theorem setInput (h : d.IsFinite) {p : Position} {input : String}
    (he : d.setInput p input = .ok e) : e.IsFinite := by
  obtain ⟨f, hf, he⟩ := setInput_eq_ok.mp he
  exact (h.setCell (Cell.isFinite_ofInput input) hf).evaluateCell he

theorem setFormat (h : d.IsFinite) {p : Position} {format : Format} (hf : format.IsFinite)
    (he : d.setFormat p format = .ok e) : e.IsFinite := by
  obtain ⟨-, rfl⟩ := setFormat_eq_ok.mp he
  refine h.put p ⟨(h.cell p).value, fun f hm => ?_⟩
  obtain rfl := Option.some.inj hm
  refine Format.isFinite_overlay ?_ hf
  cases hc : (d.cell p).format with
  | none => exact nofun
  | some base => exact (h.cell p).format base hc

theorem clearCell (h : d.IsFinite) {p : Position} (he : d.clearCell p = .ok e) : e.IsFinite := by
  obtain ⟨-, rfl⟩ := clearCell_eq_ok.mp he
  refine h.withCells fun hq => ?_
  rw [Std.ExtTreeMap.getElem?_erase] at hq
  split at hq
  · cases hq
  · exact h.cells hq

theorem setSize (h : d.IsFinite) {axis : Axis} {index : Nat} {size : Float} (hs : size.isFinite)
    (he : d.setSize axis index size = .ok e) : e.IsFinite := by
  obtain ⟨-, rfl⟩ := setSize_eq_ok.mp he
  refine ⟨fun {p c} hp => ?_, fun {b i x} hx => ?_⟩
  · rw [cells_withAxis] at hp
    exact h.cells hp
  · rw [sizes_withAxis] at hx
    split at hx
    · rcases getElem?_insert_eq_some_iff.mp hx with ⟨-, rfl⟩ | ⟨-, hx⟩
      · exact hs
      · exact h.sizes hx
    · exact h.sizes hx

theorem removeDuplicateRows (h : d.IsFinite) {range : String}
    (he : d.removeDuplicateRows range = .ok e) : e.IsFinite := by
  obtain ⟨r, -, rfl⟩ := removeDuplicateRows_eq_ok.mp he
  refine h.withCells fun {q c} hq => ?_
  rcases of_getElem?_putCells _ _ hq with ⟨hm, -⟩ | hq
  · obtain ⟨i, j, row, hi, hj, -⟩ := mem_placed hm
    obtain ⟨k, -, rfl⟩ :=
      Rectangle.mem_block (Block.mem_of_mem_removeDuplicates (List.mem_of_getElem? hi))
    obtain ⟨l, -, rfl⟩ := List.mem_map.mp (List.mem_of_getElem? hj)
    exact h.cell _
  · rw [Std.ExtTreeMap.getElem?_filter', Option.filter_eq_some_iff] at hq
    exact h.cells hq.1

theorem findAndReplace (h : d.IsFinite) {range pattern replacement : String}
    (he : d.findAndReplace range pattern replacement = .ok e) : e.IsFinite := by
  obtain ⟨r, compiled, -, -, rfl⟩ := findAndReplace_eq_ok.mp he
  refine h.mapCells fun p c hc => ?_
  split
  · refine ⟨?_, hc.format⟩
    have hv := hc.value
    cases hcv : c.value <;> simp_all [Block.replaceInValue, Value.IsFinite]
  · exact hc

theorem recalculate (h : d.IsFinite) : d.recalculate.IsFinite := by
  refine h.mapCells fun p c hc => ?_
  split
  · exact ⟨h.evaluate _ p, hc.format⟩
  · exact hc

/-- Every edit that brings along finite numbers keeps the numbers of a sheet finite. -/
theorem apply {o : Operation} (ho : o.IsFinite) (h : d.IsFinite) (he : o.apply d = .ok e) :
    e.IsFinite := by
  cases o with
  | setCell => exact h.setCell ho he
  | setInput => exact h.setInput he
  | setFormat => exact h.setFormat ho he
  | clearCell => exact h.clearCell he
  | setSize => exact h.setSize ho he
  | insert =>
    obtain ⟨-, rfl⟩ := insert_eq_ok.mp he
    exact h.renameAxis _ _ _
  | delete =>
    obtain ⟨-, -, rfl⟩ := delete_eq_ok.mp he
    exact h.renameAxis _ _ _
  | removeDuplicateRows => exact h.removeDuplicateRows he
  | findAndReplace => exact h.findAndReplace he
  | evaluateCell => exact h.evaluateCell he
  | recalculate =>
    simp only [Operation.apply, Except.ok.injEq] at he
    exact he ▸ h.recalculate

end IsFinite

end Document

/-! ## Origins -/

theorem Value.isFinite_of_ofJson? {json : Json} {v : Value} (h : Value.ofJson? json = some v) :
    v.IsFinite := by
  unfold Value.ofJson? at h
  split at h
  · obtain rfl := Option.some.inj h
    trivial
  · obtain ⟨x, hx, rfl⟩ := Option.map_eq_some_iff.mp h
    exact Json.isFinite_of_float? hx
  · obtain ⟨s, -, rfl⟩ := Option.map_eq_some_iff.mp h
    trivial
  · cases h

theorem Format.isFinite_of_ofJson? {json : Json} {f : Format} (h : Format.ofJson? json = some f) :
    f.IsFinite := by
  unfold Format.ofJson? at h
  obtain ⟨fields, -, h⟩ := Option.bind_eq_some_iff.mp h
  split at h
  · simp only [Option.bind_eq_bind, Option.bind_eq_some_iff, Option.pure_def,
      Option.some.injEq] at h
    obtain ⟨bold, -, italic, -, color, -, background, -, fontSize, hs, rfl⟩ := h
    intro x hx
    obtain ⟨j, hj⟩ := Json.exists_of_optional? hs x hx
    exact Json.isFinite_of_float? hj
  · cases h

theorem Cell.isFinite_of_ofJson? {json : Json} {c : Cell} (h : Cell.ofJson? json = some c) :
    c.IsFinite := by
  unfold Cell.ofJson? at h
  obtain ⟨fields, -, h⟩ := Option.bind_eq_some_iff.mp h
  split at h
  · simp only [Option.bind_eq_bind, Option.bind_eq_some_iff, Option.pure_def,
      Option.some.injEq] at h
    obtain ⟨value, hv, formula, -, format, hf, rfl⟩ := h
    refine ⟨?_, fun f hm => ?_⟩
    · unfold Json.withUsual? at hv
      split at hv
      · exact Value.isFinite_of_ofJson? hv
      · obtain rfl := Option.some.inj hv
        trivial
    · obtain ⟨j, hj⟩ := Json.exists_of_optional? hf f hm
      exact Format.isFinite_of_ofJson? hj
  · cases h

/-- What is found in a map that may be missing was read. -/
theorem Json.exists_of_withUsual? {κ α : Type} {order : κ → κ → Ordering} [Std.TransCmp order]
    [Std.LawfulEqCmp order] {readKey : List Char → Option κ} {read : Json → Option α}
    {json : Option Json} {m : Std.ExtTreeMap κ α order}
    (h : Json.withUsual? ∅ (@Json.map? κ α order _ readKey read) json = some m) {k : κ} {x : α}
    (hx : m[k]? = some x) : ∃ j, read j = some x := by
  unfold Json.withUsual? at h
  split at h
  · exact Json.exists_of_map? h hx
  · obtain rfl := Option.some.inj h
    simp at hx

theorem Snapshot.isFinite_of_ofJson? {json : Json} {s : Snapshot}
    (h : Snapshot.ofJson? json = some s) : s.IsFinite := by
  unfold Snapshot.ofJson? at h
  obtain ⟨fields, -, h⟩ := Option.bind_eq_some_iff.mp h
  split at h
  · simp only [Option.bind_eq_bind, Option.bind_eq_some_iff, Option.pure_def,
      Option.some.injEq] at h
    obtain ⟨cells, hc, widths, hw, heights, hh, rows, -, cols, -, rfl⟩ := h
    refine ⟨fun hk => ?_, fun hi => ?_, fun hi => ?_⟩
    · obtain ⟨j, hj⟩ := Json.exists_of_withUsual? hc hk
      exact Cell.isFinite_of_ofJson? hj
    · obtain ⟨j, hj⟩ := Json.exists_of_withUsual? hw hi
      exact Json.isFinite_of_float? hj
    · obtain ⟨j, hj⟩ := Json.exists_of_withUsual? hh hi
      exact Json.isFinite_of_float? hj
  · cases h

namespace Document

/-- Whether a snapshot that a document comes from has finite numbers only. A stored one has. -/
def Origin.IsFinite : Origin → Prop
  | .snapshot s => s.IsFinite
  | _ => True

namespace IsFinite

variable {d e : Document}

theorem empty (rows cols : Nat) : (Document.empty rows cols).IsFinite where
  cells hp := by simp [Document.empty] at hp
  sizes {axis i x} hi := by cases axis <;> simp [Document.empty, Document.sizes] at hi

theorem loadSizes (h : d.IsFinite) {axis : Axis} {sizes : Sizes}
    (hs : ∀ {i : Nat} {x : Float}, sizes[i]? = some x → x.isFinite)
    (he : Snapshot.loadSizes d axis sizes = .ok e) : e.IsFinite := by
  refine foldlM_keeps (fun f entry hm g hf hg => ?_) h (Snapshot.loadSizes_eq_ok.mp he)
  exact hf.setSize (hs (Std.ExtTreeMap.mem_toList_iff_getElem?_eq_some.mp hm)) hg

theorem of_snapshot {s : Snapshot} (h : s.IsFinite) (he : s.document = .ok e) : e.IsFinite := by
  obtain ⟨-, -, d₁, d₂, h₁, h₂, he⟩ := Snapshot.document_eq_ok.mp he
  have hd₁ : d₁.IsFinite := by
    refine foldlM_keeps (fun d entry hm f hd hf => ?_) (empty s.rows s.cols) h₁
    obtain ⟨p, -, -, rfl⟩ := Snapshot.loadCell_eq_ok.mp hf
    exact hd.put p (h.cells (Std.ExtTreeMap.mem_toList_iff_getElem?_eq_some.mp hm))
  exact (hd₁.loadSizes h.widths h₂).loadSizes h.heights he

theorem of_origin {o : Origin} (ho : o.IsFinite) (he : o.document = .ok d) : d.IsFinite := by
  cases o with
  | empty rows cols =>
    simp only [Origin.document, Except.ok.injEq] at he
    exact he ▸ empty rows cols
  | settings s =>
    simp only [Origin.document, Except.ok.injEq] at he
    exact he ▸ empty s.rows s.cols
  | snapshot s => exact of_snapshot ho he
  | stored json =>
    simp only [Origin.document, Snapshot.read] at he
    split at he
    · rename_i s hs
      obtain ⟨j, -, hj⟩ := Option.bind_eq_some_iff.mp hs
      exact of_snapshot (Snapshot.isFinite_of_ofJson? hj) he
    · cases he

end IsFinite

/-- The numbers of a document stay finite, if the edits bring along finite numbers only. -/
theorem isFinite_run {o : Origin} {d : Document} (ho : o.IsFinite) (h : o.document = .ok d)
    (os : List Operation) (hos : ∀ o ∈ os, o.IsFinite) : (d.run os).IsFinite :=
  run_keeps (fun _ _ _ ho hd he => IsFinite.apply ho hd he) os d (allAlong_of_forall hos d)
    (.of_origin ho h)

end Document

end Spreadsheet
