import Mathlib
import Spreadsheet.Proofs.Document.Edit
import Spreadsheet.Snapshot.Basic

/-!
# Loading snapshots

When a snapshot can be loaded and which document it makes: the cells are put one after the other
(`foldlM_loadCell_eq_ok`), then the sizes are set along both axes (`loadSizes_empty_eq_ok`). The
folds over the entries are opened here, once.
-/

namespace Spreadsheet

/-! ## Steps that can fail -/

section Steps

variable {ε ε' σ α β : Type}

theorem bind_eq_ok {x : Except ε α} {f : α → Except ε β} {b : β} :
    x >>= f = .ok b ↔ ∃ a, x = .ok a ∧ f a = .ok b := by
  cases x <;> simp [bind, Except.bind]

theorem mapError_eq_ok {x : Except ε α} {f : ε → ε'} {a : α} :
    x.mapError f = .ok a ↔ x = .ok a := by
  cases x <;> simp [Except.mapError]

/-- What every step keeps, the steps along a list keep. -/
theorem foldlM_keeps {P : σ → Prop} {f : σ → α → Except ε σ} :
    ∀ {l : List α}, (∀ s, ∀ a ∈ l, ∀ t, P s → f s a = .ok t → P t) →
      ∀ {s t : σ}, P s → l.foldlM f s = .ok t → P t := by
  intro l
  induction l with
  | nil =>
    intro _ s t hs h
    simp only [List.foldlM_nil, pure, Except.pure, Except.ok.injEq] at h
    exact h ▸ hs
  | cons a l ih =>
    intro keeps s t hs h
    rw [List.foldlM_cons] at h
    obtain ⟨u, hu, h⟩ := bind_eq_ok.mp h
    exact ih (fun s b hb => keeps s b (List.mem_cons_of_mem a hb))
      (keeps s a List.mem_cons_self u hs hu) h

end Steps

namespace Snapshot

variable {d e : Document}

theorem loadCell_eq_ok {key : String} {c : Cell} :
    loadCell d key c = .ok e ↔ ∃ p, position? key = some p ∧ d.Inside p ∧ e = d.put p c := by
  unfold loadCell
  cases hk : position? key with
  | none => simp
  | some p =>
    by_cases hp : d.Inside p
    · simp [Document.requireInside_of_inside, hp, Except.map, Except.mapError, eq_comm]
    · simp [Document.requireInside_of_not_inside, hp, Except.map, Except.mapError]

theorem loadSizes_eq_ok {axis : Axis} {sizes : Sizes} :
    loadSizes d axis sizes = .ok e ↔
      sizes.toList.foldlM (fun (d : Document) (i, x) => d.setSize axis i x) d = .ok e :=
  mapError_eq_ok

/-- Cells by position instead of by key. -/
def byPosition (l : List (String × Cell)) : List (Position × Cell) :=
  l.filterMap fun e => (position? e.1).map (·, e.2)

/-- Cells are loaded if and only if their keys are those of positions inside the sheet. They are put
one after the other. -/
theorem foldlM_loadCell_eq_ok : ∀ {l : List (String × Cell)} {d e : Document},
    l.foldlM (fun d (key, c) => loadCell d key c) d = .ok e ↔
      (∀ x ∈ l, ∃ p, position? x.1 = some p ∧ d.Inside p) ∧
        e = { d with cells := Document.putCells d.cells (byPosition l) } := by
  intro l
  induction l with
  | nil =>
    intro d e
    exact ⟨fun h => ⟨nofun, (Except.ok.inj h).symm⟩, fun h => congrArg Except.ok h.2.symm⟩
  | cons x l ih =>
    intro d e
    have hcons : ∀ {p}, position? x.1 = some p →
        Document.putCells d.cells (byPosition (x :: l)) =
          Document.putCells (d.put p x.2).cells (byPosition l) := by
      intro p hp
      rw [byPosition, List.filterMap_cons, hp]
      rfl
    rw [List.foldlM_cons, bind_eq_ok, List.forall_mem_cons]
    -- The size stays as it is, so the further keys are checked against the same sheet.
    constructor
    · rintro ⟨d', hput, h⟩
      obtain ⟨p, hp, hi, rfl⟩ := loadCell_eq_ok.mp hput
      obtain ⟨hl, rfl⟩ := ih.mp h
      rw [hcons hp]
      exact ⟨⟨⟨p, hp, hi⟩, hl⟩, rfl⟩
    · rintro ⟨⟨⟨p, hp, hi⟩, hl⟩, rfl⟩
      rw [hcons hp]
      exact ⟨d.put p x.2, loadCell_eq_ok.mpr ⟨p, hp, hi, rfl⟩, ih.mpr ⟨hl, rfl⟩⟩

/-- Sizes are set if and only if their indices lie inside the sheet. -/
theorem foldlM_setSize_eq_ok {axis : Axis} : ∀ {l : List (Nat × Float)} {d e : Document},
    l.foldlM (fun (d : Document) (i, x) => d.setSize axis i x) d = .ok e ↔
      (∀ x ∈ l, x.1 < d.length axis) ∧
        e = d.withAxis axis (d.length axis) (insertAll (d.sizes axis) l) := by
  intro l
  induction l with
  | nil =>
    intro d e
    have hnil : d.withAxis axis (d.length axis) (insertAll (d.sizes axis) []) = d := by
      cases axis <;> rfl
    rw [hnil]
    exact ⟨fun h => ⟨nofun, (Except.ok.inj h).symm⟩, fun h => congrArg Except.ok h.2.symm⟩
  | cons x l ih =>
    intro d e
    have hcons : ∀ f : Document,
        f = d.withAxis axis (d.length axis) ((d.sizes axis).insert x.1 x.2) →
          f.length axis = d.length axis ∧
            f.withAxis axis (f.length axis) (insertAll (f.sizes axis) l) =
              d.withAxis axis (d.length axis) (insertAll (d.sizes axis) (x :: l)) := by
      rintro f rfl
      cases axis <;> exact ⟨rfl, rfl⟩
    rw [List.foldlM_cons, bind_eq_ok, List.forall_mem_cons]
    constructor
    · rintro ⟨f, hset, h⟩
      obtain ⟨hi, hf⟩ := Document.setSize_eq_ok.mp hset
      obtain ⟨hlength, hsizes⟩ := hcons f hf
      obtain ⟨hl, rfl⟩ := ih.mp h
      rw [hlength] at hl
      exact ⟨⟨hi, hl⟩, hsizes⟩
    · rintro ⟨⟨hi, hl⟩, rfl⟩
      obtain ⟨hlength, hsizes⟩ := hcons _ rfl
      refine ⟨_, Document.setSize_eq_ok.mpr ⟨hi, rfl⟩, ih.mpr ⟨?_, hsizes.symm⟩⟩
      rwa [hlength]

/-- Along an axis without sizes, the stored ones are set if and only if they lie inside. -/
theorem loadSizes_empty_eq_ok {axis : Axis} {sizes : Sizes} (hd : d.sizes axis = ∅) :
    loadSizes d axis sizes = .ok e ↔
      (∀ {i : Nat} {x : Float}, sizes[i]? = some x → i < d.length axis) ∧
        e = d.withAxis axis (d.length axis) sizes := by
  rw [loadSizes_eq_ok, foldlM_setSize_eq_ok, hd, ← ofList_eq_insertAll, ofList_toList, Prod.forall]
  simp only [Std.ExtTreeMap.mem_toList_iff_getElem?_eq_some]

theorem document_eq_ok {s : Snapshot} :
    s.document = .ok e ↔ s.rows ≠ 0 ∧ s.cols ≠ 0 ∧ ∃ d₁ d₂,
      s.cells.toList.foldlM (fun d (key, c) => loadCell d key c) (.empty s.rows s.cols) = .ok d₁ ∧
      loadSizes d₁ .column s.widths = .ok d₂ ∧ loadSizes d₂ .row s.heights = .ok e := by
  unfold document
  by_cases h : s.rows = 0 ∨ s.cols = 0
  · simp only [h, if_true, throw, throwThe, MonadExceptOf.throw, bind_eq_ok]
    grind
  · rw [not_or] at h
    simp only [h, or_self, if_false, bind_eq_ok, ne_eq, not_false_eq_true, true_and]
    exact ⟨fun ⟨d₁, h₁, d₂, h₂, he⟩ => ⟨d₁, d₂, h₁, h₂, he⟩,
      fun ⟨d₁, d₂, h₁, h₂, he⟩ => ⟨d₁, h₁, d₂, h₂, he⟩⟩

end Snapshot

end Spreadsheet
