import Spreadsheet.Proofs.Document.Run
import Spreadsheet.Proofs.Snapshot.Load

/-!
# Well-formed documents

A document is well formed when it has a row and a column, everything it stores lies inside, and no
stored cell is blank. Every document at the end of a run is well formed (`wellFormed_run`): the
origins are (`WellFormed.of_origin`), and every edit keeps it (`WellFormed.apply`). Only insertions
have to find room. They do on any run that is not longer than the room there is at its start
(`allAlong_findsRoom`).
-/

namespace Spreadsheet.Document

/-- The sheet is at least one row high and one column wide, its cells and sizes lie inside, and it
stores no blank cell. -/
structure WellFormed (d : Document) : Prop where
  length_pos : ∀ axis, 1 ≤ d.length axis
  inside : ∀ {p : Position} {c : Cell}, d.cells[p]? = some c → d.Inside p
  sized : ∀ {axis : Axis} {i : Nat} {x : Float}, (d.sizes axis)[i]? = some x → i < d.length axis
  notBlank : ∀ {p : Position} {c : Cell}, d.cells[p]? = some c → c.isBlank = false

namespace WellFormed

variable {d e : Document}

/-! ## Other cells, other sizes -/

/-- With other cells, a sheet stays well formed if those lie inside and none is blank. -/
theorem withCells (h : d.WellFormed) {cells : Cells}
    (hc : ∀ {p : Position} {c : Cell}, cells[p]? = some c → d.Inside p ∧ c.isBlank = false) :
    WellFormed { d with cells } where
  length_pos axis := by
    rw [length_withCells]
    exact h.length_pos axis
  inside hp axis := by
    rw [length_withCells]
    exact (hc hp).1 axis
  sized {axis i x} hi := by
    rw [sizes_withCells] at hi
    rw [length_withCells]
    exact h.sized hi
  notBlank hp := (hc hp).2

theorem put (h : d.WellFormed) {p : Position} (hp : d.Inside p) (c : Cell) :
    (d.put p c).WellFormed := by
  refine h.withCells fun hq => ?_
  rcases of_getElem?_putCell hq with ⟨rfl, rfl, hb⟩ | hq
  · exact ⟨hp, hb⟩
  · exact ⟨h.inside hq, h.notBlank hq⟩

/-- The values of cells with a formula, and texts, can be replaced. -/
theorem mapCells (h : d.WellFormed) {f : Position → Cell → Cell}
    (hf : ∀ p c, c.isBlank = false → (f p c).isBlank = false) :
    WellFormed { d with cells := d.cells.map f } := by
  refine h.withCells fun hq => ?_
  rw [Std.ExtTreeMap.getElem?_map, Option.map_eq_some_iff] at hq
  obtain ⟨c, hc, rfl⟩ := hq
  exact ⟨h.inside hc, hf _ _ (h.notBlank hc)⟩

/-- With an axis renamed, a sheet stays well formed if the new indices are below the new length. -/
theorem renameAxis (h : d.WellFormed) {axis : Axis} {n : Nat} {rename : Nat → Option Nat}
    (hn : 1 ≤ n) (hr : ∀ {i j}, i < d.length axis → rename i = some j → j < n) :
    (d.renameAxis axis n rename).WellFormed where
  length_pos b := by
    rw [length_renameAxis]
    split
    · exact hn
    · exact h.length_pos b
  inside hq b := by
    obtain ⟨p, i, hi, rfl, hp⟩ := of_getElem?_renameAxis hq
    rw [length_renameAxis, Position.index_withIndex]
    split
    · exact hr (h.inside hp axis) hi
    · exact h.inside hp b
  sized {b i x} hi := by
    rw [sizes_renameAxis] at hi
    rw [length_renameAxis]
    split at hi
    · obtain ⟨l, hl, hx⟩ := exists_of_getElem?_rekey hi
      rename_i hb
      rw [if_pos hb]
      exact hr (h.sized hx) hl
    · rename_i hb
      rw [if_neg hb]
      exact h.sized hi
  notBlank hq := by
    obtain ⟨p, i, -, -, hp⟩ := of_getElem?_renameAxis hq
    exact h.notBlank hp

/-! ## Edits -/

theorem setCell (h : d.WellFormed) {p : Position} {value : Value} {formula : Option String}
    (he : d.setCell p value formula = .ok e) : e.WellFormed := by
  obtain ⟨hp, rfl⟩ := setCell_eq_ok.mp he
  exact h.put hp _

theorem evaluateCell (h : d.WellFormed) {p : Position} (he : d.evaluateCell p = .ok e) :
    e.WellFormed := by
  obtain ⟨hp, ⟨-, rfl⟩ | ⟨formula, -, rfl⟩⟩ := evaluateCell_eq_ok.mp he
  · exact h
  · exact h.put hp _

theorem setInput (h : d.WellFormed) {p : Position} {input : String}
    (he : d.setInput p input = .ok e) : e.WellFormed := by
  obtain ⟨f, hf, he⟩ := setInput_eq_ok.mp he
  exact (h.setCell hf).evaluateCell he

theorem setFormat (h : d.WellFormed) {p : Position} {format : Format}
    (he : d.setFormat p format = .ok e) : e.WellFormed := by
  obtain ⟨hp, rfl⟩ := setFormat_eq_ok.mp he
  exact h.put hp _

theorem clearCell (h : d.WellFormed) {p : Position} (he : d.clearCell p = .ok e) :
    e.WellFormed := by
  obtain ⟨-, rfl⟩ := clearCell_eq_ok.mp he
  refine h.withCells fun hq => ?_
  rw [Std.ExtTreeMap.getElem?_erase] at hq
  split at hq
  · cases hq
  · exact ⟨h.inside hq, h.notBlank hq⟩

theorem setSize (h : d.WellFormed) {axis : Axis} {index : Nat} {size : Float}
    (he : d.setSize axis index size = .ok e) : e.WellFormed := by
  obtain ⟨hi, rfl⟩ := setSize_eq_ok.mp he
  have hl : ∀ b, (d.withAxis axis (d.length axis)
      ((d.sizes axis).insert index size)).length b = d.length b := by
    intro b
    rw [length_withAxis]
    split
    · rename_i hb
      rw [hb]
    · rfl
  refine ⟨fun b => ?_, fun {p c} hp b => ?_, fun {b i x} hx => ?_, fun {p c} hp => ?_⟩
  · rw [hl]
    exact h.length_pos b
  · rw [hl]
    rw [cells_withAxis] at hp
    exact h.inside hp b
  · rw [hl]
    rw [sizes_withAxis] at hx
    split at hx
    · rename_i hb
      subst hb
      rw [Std.ExtTreeMap.getElem?_insert] at hx
      split at hx
      · rename_i hc
        rw [← Std.LawfulEqCmp.eq_of_compare hc]
        exact hi
      · exact h.sized hx
    · exact h.sized hx
  · rw [cells_withAxis] at hp
    exact h.notBlank hp

theorem insert (h : d.WellFormed) {axis : Axis} {index : Nat}
    (hroom : d.length axis < Numeric.maxIndex) (he : d.insert axis index = .ok e) :
    e.WellFormed := by
  obtain ⟨-, rfl⟩ := insert_eq_ok.mp he
  rw [Numeric.wrapIndex_of_le hroom]
  refine h.renameAxis (Nat.le_add_left 1 _) fun {i j} hi hj => ?_
  simp only [Function.comp_apply, Option.some.injEq] at hj
  rw [← hj]
  exact openGap_lt hi

theorem delete (h : d.WellFormed) {axis : Axis} {index : Nat}
    (he : d.delete axis index = .ok e) : e.WellFormed := by
  obtain ⟨hi, hn, rfl⟩ := delete_eq_ok.mp he
  refine h.renameAxis ?_ fun {i j} hi' hj => closeGap?_lt hi hi' hj
  have := h.length_pos axis
  omega

theorem removeDuplicateRows (h : d.WellFormed) {range : String}
    (he : d.removeDuplicateRows range = .ok e) : e.WellFormed := by
  obtain ⟨r, hr, rfl⟩ := removeDuplicateRows_eq_ok.mp he
  have hb := rectangle_bounds hr h.length_pos
  refine h.withCells fun {q c} hq => ?_
  rcases of_getElem?_putCells _ _ hq with ⟨hm, hc⟩ | hq
  · have hin := (of_mem_placed_removeDuplicates (fun axis => (hb axis).1) hm).1
    exact ⟨inside_of_contains (fun axis => (hb axis).2) hin, hc⟩
  · rw [Std.ExtTreeMap.getElem?_filter', Option.filter_eq_some_iff] at hq
    exact ⟨h.inside hq.1, h.notBlank hq.1⟩

theorem findAndReplace (h : d.WellFormed) {range pattern replacement : String}
    (he : d.findAndReplace range pattern replacement = .ok e) : e.WellFormed := by
  obtain ⟨r, compiled, -, -, rfl⟩ := findAndReplace_eq_ok.mp he
  refine h.mapCells fun p c hc => ?_
  split
  · cases hv : c.value <;> simp_all [Cell.isBlank, Block.replaceInValue, Value.isEmpty]
  · exact hc

theorem recalculate (h : d.WellFormed) : d.recalculate.WellFormed := by
  refine h.mapCells fun p c hc => ?_
  split
  · rename_i formula hf
    simp [Cell.isBlank, hf]
  · exact hc

/-- Every edit of a well-formed sheet that finds room makes a well-formed sheet. -/
theorem apply (o : Operation) (h : d.WellFormed) (hroom : FindsRoom d o)
    (he : o.apply d = .ok e) : e.WellFormed := by
  cases o with
  | setCell => exact h.setCell he
  | setInput => exact h.setInput he
  | setFormat => exact h.setFormat he
  | clearCell => exact h.clearCell he
  | setSize => exact h.setSize he
  | insert => exact h.insert hroom he
  | delete => exact h.delete he
  | removeDuplicateRows => exact h.removeDuplicateRows he
  | findAndReplace => exact h.findAndReplace he
  | evaluateCell => exact h.evaluateCell he
  | recalculate =>
    simp only [Operation.apply, Except.ok.injEq] at he
    exact he ▸ h.recalculate

theorem run (h : d.WellFormed) {os : List Operation} (hos : AllAlong FindsRoom d os) :
    (d.run os).WellFormed :=
  run_keeps (fun o _ _ hroom hd he => WellFormed.apply o hd hroom he) os d hos h

/-! ## Origins -/

theorem empty (rows cols : Nat) : (Document.empty rows cols).WellFormed where
  length_pos axis := by cases axis <;> exact Nat.le_max_right _ 1
  inside hp := by simp [Document.empty] at hp
  sized {axis i x} hi := by cases axis <;> simp [Document.empty, sizes] at hi
  notBlank hp := by simp [Document.empty] at hp

theorem loadSizes (h : d.WellFormed) {axis : Axis} {sizes : Sizes}
    (he : Snapshot.loadSizes d axis sizes = .ok e) : e.WellFormed :=
  foldlM_keeps (fun _ _ _ _ hd hs => hd.setSize hs) h (Snapshot.loadSizes_eq_ok.mp he)

/-- Loading a snapshot checks all that makes a sheet well formed. -/
theorem of_snapshot {s : Snapshot} (he : s.document = .ok e) : e.WellFormed := by
  obtain ⟨-, -, d₁, d₂, h₁, h₂, he⟩ := Snapshot.document_eq_ok.mp he
  have hd₁ : d₁.WellFormed := by
    refine foldlM_keeps (fun d entry _ f hd hf => ?_) (empty s.rows s.cols) h₁
    obtain ⟨p, -, hp, rfl⟩ := Snapshot.loadCell_eq_ok.mp hf
    exact hd.put hp entry.2
  exact (hd₁.loadSizes h₂).loadSizes he

theorem of_origin {o : Origin} (he : o.document = .ok d) : d.WellFormed := by
  cases o with
  | empty rows cols =>
    simp only [Origin.document, Except.ok.injEq] at he
    exact he ▸ empty rows cols
  | settings s =>
    simp only [Origin.document, Except.ok.injEq] at he
    exact he ▸ empty s.rows s.cols
  | snapshot s => exact of_snapshot he
  | stored json =>
    simp only [Origin.document, Snapshot.read] at he
    split at he
    · exact of_snapshot he
    · cases he

end WellFormed

/-! ## Room for insertions -/

variable {d e : Document}

theorem length_put (d : Document) (p : Position) (c : Cell) (axis : Axis) :
    (d.put p c).length axis = d.length axis :=
  length_withCells d _ axis

theorem length_of_evaluateCell {p : Position} (he : d.evaluateCell p = .ok e) (axis : Axis) :
    e.length axis = d.length axis := by
  obtain ⟨-, ⟨-, rfl⟩ | ⟨formula, -, rfl⟩⟩ := evaluateCell_eq_ok.mp he
  · rfl
  · exact length_put d p _ axis

/-- No edit makes a sheet longer by more than one row or column. -/
theorem length_le_of_apply {o : Operation} (he : o.apply d = .ok e) (axis : Axis) :
    e.length axis ≤ d.length axis + 1 := by
  have kept : e.length axis = d.length axis → e.length axis ≤ d.length axis + 1 :=
    fun h => Nat.le_succ_of_le (Nat.le_of_eq h)
  cases o with
  | setCell p =>
    obtain ⟨-, rfl⟩ := setCell_eq_ok.mp he
    exact kept (length_put d p _ axis)
  | setInput p =>
    obtain ⟨f, hf, he⟩ := setInput_eq_ok.mp he
    obtain ⟨-, rfl⟩ := setCell_eq_ok.mp hf
    exact kept ((length_of_evaluateCell he axis).trans (length_put d p _ axis))
  | setFormat p =>
    obtain ⟨-, rfl⟩ := setFormat_eq_ok.mp he
    exact kept (length_put d p _ axis)
  | clearCell =>
    obtain ⟨-, rfl⟩ := clearCell_eq_ok.mp he
    exact kept (length_withCells d _ axis)
  | setSize b =>
    obtain ⟨-, rfl⟩ := setSize_eq_ok.mp he
    refine kept ?_
    rw [length_withAxis]
    split
    · rename_i hb
      rw [hb]
    · rfl
  | insert b =>
    obtain ⟨-, rfl⟩ := insert_eq_ok.mp he
    rw [length_renameAxis]
    split
    · rename_i hb
      rw [hb]
      exact Numeric.wrapIndex_le_self _
    · exact Nat.le_succ _
  | delete b =>
    obtain ⟨-, -, rfl⟩ := delete_eq_ok.mp he
    rw [length_renameAxis]
    split
    · rename_i hb
      rw [hb]
      exact Nat.le_succ_of_le (Nat.sub_le _ _)
    · exact Nat.le_succ _
  | removeDuplicateRows =>
    obtain ⟨r, -, rfl⟩ := removeDuplicateRows_eq_ok.mp he
    exact kept (length_withCells d _ axis)
  | findAndReplace =>
    obtain ⟨r, compiled, -, -, rfl⟩ := findAndReplace_eq_ok.mp he
    exact kept (length_withCells d _ axis)
  | evaluateCell => exact kept (length_of_evaluateCell he axis)
  | recalculate =>
    obtain rfl := Except.ok.inj he
    exact kept (length_withCells d _ axis)

theorem length_step_le (d : Document) (o : Operation) (axis : Axis) :
    (d.step o).length axis ≤ d.length axis + 1 := by
  unfold step
  split
  · rename_i e he
    exact length_le_of_apply he axis
  · exact Nat.le_succ _

/-- There is room all along a run if the lengths and the number of edits together are an index. -/
theorem allAlong_findsRoom {os : List Operation}
    (h : ∀ axis, d.length axis + os.length ≤ Numeric.maxIndex) : AllAlong FindsRoom d os := by
  induction os generalizing d with
  | nil => trivial
  | cons o os ih =>
    refine ⟨?_, ih fun axis => ?_⟩
    · cases o with
      | insert axis =>
        exact Nat.lt_of_lt_of_le (Nat.lt_add_of_pos_right (Nat.succ_pos _)) (h axis)
      | _ => trivial
    · have hstep := length_step_le d o axis
      have hlength := h axis
      rw [List.length_cons] at hlength
      omega

/-- A run that is not longer than the room there is keeps a sheet well formed. -/
theorem WellFormed.run_short (h : d.WellFormed) {os : List Operation}
    (hr : d.rows + os.length ≤ Numeric.maxIndex) (hc : d.cols + os.length ≤ Numeric.maxIndex) :
    (d.run os).WellFormed := by
  refine h.run (allAlong_findsRoom fun axis => ?_)
  cases axis with
  | row => exact hr
  | column => exact hc

/-- Whatever a document comes from and however it is edited, it is well formed, as long as its
lengths stay below the greatest index. -/
theorem wellFormed_run {o : Origin} (h : o.document = .ok d) (os : List Operation)
    (hos : AllAlong FindsRoom d os) : (d.run os).WellFormed :=
  (WellFormed.of_origin h).run hos

/-- Edits of a sheet with two rows and a column, which cannot be deleted. -/
def roomyEdits : List Operation :=
  [.insert .row 0, .setInput ⟨0, 0⟩ "=A3", .delete .column 0, .removeDuplicateRows "A1:A3",
    .recalculate]

/-- A stored sheet with one cell, edited. -/
theorem wellFormed_run_of_stored :
    (Origin.stored ("\x7b\"cells\":\x7b\"1,0\":\x7b\"value\":\"a\"\x7d\x7d,"
        ++ "\"numRows\":2,\"numCols\":1\x7d")).document =
          .ok ((Document.empty 2 1).put ⟨1, 0⟩ { value := .text "a" }) ∧
      AllAlong FindsRoom ((Document.empty 2 1).put ⟨1, 0⟩ { value := .text "a" }) roomyEdits ∧
      (((Document.empty 2 1).put ⟨1, 0⟩ { value := .text "a" }).run roomyEdits).WellFormed := by
  have h : (Origin.stored ("\x7b\"cells\":\x7b\"1,0\":\x7b\"value\":\"a\"\x7d\x7d,"
      ++ "\"numRows\":2,\"numCols\":1\x7d")).document =
        .ok ((Document.empty 2 1).put ⟨1, 0⟩ { value := .text "a" }) := by
    cbv
  have hroom : AllAlong FindsRoom ((Document.empty 2 1).put ⟨1, 0⟩ { value := .text "a" })
      roomyEdits := by
    refine allAlong_findsRoom fun axis => ?_
    cases axis <;> decide
  exact ⟨h, hroom, wellFormed_run h roomyEdits hroom⟩

end Spreadsheet.Document
