import Spreadsheet.Proofs.Document.Entry

/-!
# Edits of single cells

Setting, formatting and clearing make a new cell of the one that was there (`CellEdit.onCell`) and
put it in its place (`CellEdit.apply_eq_ok`). So a sequence of edits does to every cell what the
edits of that cell do, one after the other, and how the edits of different cells are mixed makes no
difference (`applyAll_per_cell`).
-/

namespace Spreadsheet

theorem Format.default_overlay (patch : Format) : ({} : Format).overlay patch = patch := by
  simp [overlay]

/-! ## Edits -/

/-- An edit of one cell. -/
inductive CellEdit where
  | set (value : Value) (formula : Option String)
  | format (patch : Format)
  | clear

namespace CellEdit

variable {d : Document} {p q : Position}

/-- The cell after the edit. -/
def onCell (c : Cell) : CellEdit → Cell
  | .set value formula => { c with value, formula }
  | .format patch =>
    match c.format with
    | some base => { c with format := some (base.overlay patch) }
    | none => { c with format := some patch }
  | .clear => {}

/-- Makes the edit at a position. -/
def apply (d : Document) (p : Position) : CellEdit → Except Document.Error Document
  | .set value formula => d.setCell p value formula
  | .format patch => d.setFormat p patch
  | .clear => d.clearCell p

/-- A sheet after some edits, made one after the other. -/
def applyAll (d : Document) (edits : List (Position × CellEdit)) :
    Except Document.Error Document :=
  edits.foldlM (fun d e => e.2.apply d e.1) d

/-- The cell after some edits. -/
def replay (c : Cell) (edits : List CellEdit) : Cell := edits.foldl onCell c

/-- The edits of one cell among those of a sheet. -/
def editsAt (p : Position) (edits : List (Position × CellEdit)) : List CellEdit :=
  (edits.filter (·.1 = p)).map (·.2)

/-- The second sheet is the first one with some edits of cells made: every cell went through the
edits at its position, those that are not blank are stored, and nothing else changed. -/
structure Edited (d e : Document) (edits : List (Position × CellEdit)) : Prop
    extends Document.SameShape d e where
  cell : ∀ p, e.cell p = replay (d.cell p) (editsAt p edits)
  stored : ∀ p, p ∈ e.cells ↔ (replay (d.cell p) (editsAt p edits)).isBlank = false

theorem editsAt_cons (q p : Position) (a : CellEdit) (edits : List (Position × CellEdit)) :
    editsAt q ((p, a) :: edits) = if p = q then a :: editsAt q edits else editsAt q edits := by
  by_cases h : p = q <;> simp [editsAt, h]

theorem editsAt_append (q : Position) (edits edits' : List (Position × CellEdit)) :
    editsAt q (edits ++ edits') = editsAt q edits ++ editsAt q edits' := by
  simp [editsAt]

theorem mem_editsAt {a : CellEdit} {edits : List (Position × CellEdit)} :
    a ∈ editsAt p edits ↔ (p, a) ∈ edits := by
  simp [editsAt]

/-! ## One edit -/

theorem apply_eq_ok (hp : d.Inside p) (a : CellEdit) :
    a.apply d p = .ok (d.put p (a.onCell (d.cell p))) := by
  cases a with
  | set value formula => exact Document.setCell_eq_ok.mpr ⟨hp, rfl⟩
  | format patch =>
    refine Document.setFormat_eq_ok.mpr ⟨hp, ?_⟩
    cases hf : (d.cell p).format with
    | none => simp only [onCell, hf, Option.getD_none, Format.default_overlay]
    | some base => simp only [onCell, hf, Option.getD_some]
  | clear => exact Document.clearCell_eq_ok.mpr ⟨hp, rfl⟩

/-! ## Sequences of edits -/

/-- Edits inside the sheet can be made, and each cell goes through those at its position. -/
theorem exists_applyAll_eq_ok : ∀ (edits : List (Position × CellEdit)) {d : Document},
    d.WellFormed → (∀ e ∈ edits, d.Inside e.1) →
      ∃ e, applyAll d edits = .ok e ∧ e.WellFormed ∧ Edited d e edits := by
  intro edits
  induction edits with
  | nil =>
    intro d hd _
    exact ⟨d, rfl, hd, .refl d, fun _ => rfl, hd.mem_iff⟩
  | cons entry edits ih =>
    obtain ⟨p, a⟩ := entry
    intro d hd hin
    have hp : d.Inside p := hin (p, a) List.mem_cons_self
    have hshape : Document.SameShape d (d.put p (a.onCell (d.cell p))) := .withCells d _
    obtain ⟨e, he, hwf, hedited⟩ := ih (hd.put hp _) fun e he =>
      hshape.inside_iff.mpr (hin e (List.mem_cons_of_mem _ he))
    have hcell : ∀ q, e.cell q = replay (d.cell q) (editsAt q ((p, a) :: edits)) := by
      intro q
      rw [hedited.cell, Document.cell_put, editsAt_cons]
      split
      · rename_i hq
        rw [hq]
        rfl
      · rfl
    refine ⟨e, ?_, hwf, hshape.trans hedited.toSameShape, hcell, ?_⟩
    · simp only [applyAll, List.foldlM_cons, apply_eq_ok hp, bind, Except.bind]
      exact he
    · intro q
      rw [hwf.mem_iff, hcell]

/-- What is made of a sheet depends on the edits of each cell alone. -/
theorem applyAll_congr (hd : d.WellFormed) {edits edits' : List (Position × CellEdit)}
    (hin : ∀ e ∈ edits, d.Inside e.1) (h : ∀ p, editsAt p edits' = editsAt p edits) :
    applyAll d edits' = applyAll d edits := by
  have hin' : ∀ e ∈ edits', d.Inside e.1 := by
    intro e he
    have hm : e.2 ∈ editsAt e.1 edits' := mem_editsAt.mpr he
    rw [h, mem_editsAt] at hm
    exact hin _ hm
  obtain ⟨e, he, hwf, hedited⟩ := exists_applyAll_eq_ok edits hd hin
  obtain ⟨e', he', hwf', hedited'⟩ := exists_applyAll_eq_ok edits' hd hin'
  have hshape := hedited.toSameShape.symm.trans hedited'.toSameShape
  rw [he, he', hshape.eq_of_cell hwf hwf' fun p => ?_]
  rw [hedited'.cell, hedited.cell, h]

theorem editsAt_swap (h : p ≠ q) (a b : CellEdit) (before after : List (Position × CellEdit))
    (r : Position) : editsAt r (before ++ (q, b) :: (p, a) :: after) =
      editsAt r (before ++ (p, a) :: (q, b) :: after) := by
  simp only [editsAt_append, editsAt_cons]
  by_cases hp : p = r
  · have hq : ¬ q = r := fun hq => h (hp.trans hq.symm)
    rw [if_neg hq, if_neg hq]
  · rw [if_neg hp, if_neg hp]

/-- Edits of cells inside a well-formed sheet can be made. Each cell goes through the edits at its
position and through no other, so sequences with the same edits at each position make the same
sheet, and neighbours at different positions can be exchanged. -/
theorem applyAll_per_cell (hd : d.WellFormed) {edits : List (Position × CellEdit)}
    (hin : ∀ e ∈ edits, d.Inside e.1) :
    (∃ e, applyAll d edits = .ok e ∧ Edited d e edits) ∧
    (∀ edits', (∀ p, editsAt p edits' = editsAt p edits) →
      applyAll d edits' = applyAll d edits) ∧
    ∀ before p a q b after, edits = before ++ (p, a) :: (q, b) :: after → p ≠ q →
      applyAll d (before ++ (q, b) :: (p, a) :: after) = applyAll d edits := by
  refine ⟨?_, fun edits' => applyAll_congr hd hin, ?_⟩
  · obtain ⟨e, he, -, hedited⟩ := exists_applyAll_eq_ok edits hd hin
    exact ⟨e, he, hedited⟩
  · rintro before p a q b after rfl hpq
    exact applyAll_congr hd hin (editsAt_swap hpq a b before after)

/-- A cell in bold is filled, slanted, and keeps its weight; another one is cleared and comes back
without a format. -/
def rewritten : List (Position × CellEdit) :=
  [(⟨1, 2⟩, .set (.text "x") none), (⟨0, 0⟩, .format { bold := some false }), (⟨0, 0⟩, .clear),
    (⟨1, 2⟩, .format { italic := some true }), (⟨0, 0⟩, .set (.number 1) none)]

theorem applyAll_per_cell_of_rewritten :
    (Document.bolded.WellFormed ∧ ∀ e ∈ rewritten, Document.bolded.Inside e.1) ∧
    (∃ e, applyAll Document.bolded rewritten = .ok e ∧ Edited Document.bolded e rewritten ∧
      e.cell ⟨0, 0⟩ = { value := .number 1 } ∧
      e.cell ⟨1, 2⟩ =
        { value := .text "x", format := some { bold := some true, italic := some true } }) ∧
    applyAll Document.bolded [(⟨1, 2⟩, .set (.text "x") none),
      (⟨1, 2⟩, .format { italic := some true }), (⟨0, 0⟩, .format { bold := some false }),
      (⟨0, 0⟩, .clear), (⟨0, 0⟩, .set (.number 1) none)] = applyAll Document.bolded rewritten := by
  have hd : Document.bolded.WellFormed := (Document.WellFormed.empty 2 3).run_short (by decide) (by decide)
  have hin : ∀ e ∈ rewritten, Document.bolded.Inside e.1 := by
    simp only [Document.inside_iff]
    decide +kernel
  obtain ⟨⟨e, he, hedited⟩, hsame, -⟩ := applyAll_per_cell hd hin
  refine ⟨⟨hd, hin⟩, ⟨e, he, hedited, ?_, ?_⟩, hsame _ fun p => ?_⟩
  · rw [hedited.cell]
    decide +kernel
  · rw [hedited.cell]
    decide +kernel
  · simp only [rewritten, editsAt_cons]
    by_cases hp : (⟨0, 0⟩ : Position) = p
    · subst hp
      rfl
    · simp only [if_neg hp]

end CellEdit

end Spreadsheet
