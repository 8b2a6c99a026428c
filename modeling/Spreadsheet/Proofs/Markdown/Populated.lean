import Mathlib.Data.List.Induction
import Mathlib.Order.Lattice.Nat
import Spreadsheet.Markdown
import Spreadsheet.Proofs.Map

/-!
# The least rectangle around the values

The rectangle that is shown is put together cell by cell. `IsLeastAround` says what it is meant to
be: it contains all positions of a kind, and on each of its sides there is one, so no smaller
rectangle contains them (`IsLeastAround.contains_of_contains`). Only one rectangle is that, so it
does not matter in which order the cells are visited (`coverAll_eq_populated?`).
-/

namespace Spreadsheet

variable {s : Position → Prop} {p : Position} {r : Rectangle}

/-! ## Least rectangles -/

namespace Rectangle

/-- Whether a rectangle contains all positions of a kind, with one of them on each of its sides. -/
structure IsLeastAround (r : Rectangle) (s : Position → Prop) : Prop where
  contains : ∀ p, s p → r.Contains p
  top : ∃ p, s p ∧ p.row = r.first.row
  left : ∃ p, s p ∧ p.col = r.first.col
  bottom : ∃ p, s p ∧ p.row = r.last.row
  right : ∃ p, s p ∧ p.col = r.last.col

namespace IsLeastAround

/-- A rectangle with all the positions of the kind has all positions of the least one. -/
theorem contains_of_contains (h : r.IsLeastAround s) {r' : Rectangle}
    (hr' : ∀ p, s p → r'.Contains p) (hp : r.Contains p) : r'.Contains p := by
  obtain ⟨⟨a, ha, hatop⟩, ⟨b, hb, hbleft⟩, ⟨c, hc, hcbottom⟩, ⟨d, hd, hdright⟩⟩ :=
    h.top, h.left, h.bottom, h.right
  have := (hr' a ha).1.1
  have := (hr' b hb).2.1
  have := (hr' c hc).1.2
  have := (hr' d hd).2.2
  obtain ⟨⟨_, _⟩, _, _⟩ := hp
  exact ⟨⟨by omega, by omega⟩, by omega, by omega⟩

theorem ordered (h : r.IsLeastAround s) : ∀ axis, r.first.index axis ≤ r.last.index axis := by
  obtain ⟨p, hp, -⟩ := h.top
  obtain ⟨hrow, hcol⟩ := h.contains p hp
  intro axis
  cases axis with
  | row => exact Nat.le_trans hrow.1 hrow.2
  | column => exact Nat.le_trans hcol.1 hcol.2

theorem unique (h : r.IsLeastAround s) {r' : Rectangle} (h' : r'.IsLeastAround s) : r = r' := by
  -- Either corner of one of them lies in the other.
  have corners : ∀ {r : Rectangle}, r.IsLeastAround s → r.Contains r.first ∧ r.Contains r.last := by
    intro r h
    have hrow := h.ordered .row
    have hcol := h.ordered .column
    exact ⟨⟨⟨Nat.le_refl _, hrow⟩, Nat.le_refl _, hcol⟩, ⟨hrow, Nat.le_refl _⟩, hcol, Nat.le_refl _⟩
  obtain ⟨hfirst, hlast⟩ := corners h
  obtain ⟨hfirst', hlast'⟩ := corners h'
  have h₁ := h.contains_of_contains h'.contains hfirst
  have h₂ := h.contains_of_contains h'.contains hlast
  have h₃ := h'.contains_of_contains h.contains hfirst'
  have h₄ := h'.contains_of_contains h.contains hlast'
  obtain ⟨⟨_, _⟩, _, _⟩ := r
  obtain ⟨⟨_, _⟩, _, _⟩ := r'
  simp only [Contains] at h₁ h₂ h₃ h₄
  simp only [mk.injEq, Position.mk.injEq]
  omega

theorem singleton (p : Position) : (⟨p, p⟩ : Rectangle).IsLeastAround (· = p) where
  contains := by
    rintro _ rfl
    exact ⟨⟨Nat.le_refl _, Nat.le_refl _⟩, Nat.le_refl _, Nat.le_refl _⟩
  top := ⟨p, rfl, rfl⟩
  left := ⟨p, rfl, rfl⟩
  bottom := ⟨p, rfl, rfl⟩
  right := ⟨p, rfl, rfl⟩

end IsLeastAround

end Rectangle

namespace Markdown

/-! ## Visiting positions -/

/-- Whether a rectangle is the least around all positions of a kind, or there is none of either. -/
def IsAround (s : Position → Prop) : Option Rectangle → Prop
  | none => ∀ p, ¬ s p
  | some r => r.IsLeastAround s

theorem IsAround.unique {o o' : Option Rectangle} (h : IsAround s o) (h' : IsAround s o') :
    o = o' := by
  cases o with
  | none =>
    cases o' with
    | none => rfl
    | some r' =>
      obtain ⟨p, hp, -⟩ := h'.top
      exact absurd hp (h p)
  | some r =>
    cases o' with
    | none =>
      obtain ⟨p, hp, -⟩ := h.top
      exact absurd hp (h' p)
    | some r' => exact congrArg some (Rectangle.IsLeastAround.unique h h')

/-- A side is held by the position that held it, or by the new one if that lies beyond. -/
theorem isAround_cover {o : Option Rectangle} (h : IsAround s o) (p : Position) :
    IsAround (fun q => s q ∨ q = p) (cover o p) := by
  cases o with
  | none =>
    have heq : (fun q => s q ∨ q = p) = (· = p) :=
      funext fun q => propext (or_iff_right (h q))
    rw [heq]
    exact .singleton p
  | some r =>
    have side : ∀ (index : Position → Nat) {best : Nat → Nat → Nat} {a : Nat},
        (∀ a b, best a b = a ∨ best a b = b) → (∃ q, s q ∧ index q = a) →
          ∃ q, (s q ∨ q = p) ∧ index q = best a (index p) := by
      rintro index best _ hbest ⟨q, hq, rfl⟩
      rcases hbest (index q) (index p) with hl | hl
      · exact ⟨q, .inl hq, hl.symm⟩
      · exact ⟨p, .inr rfl, hl.symm⟩
    refine ⟨?_, side Position.row min_choice h.top, side Position.col min_choice h.left,
      side Position.row max_choice h.bottom, side Position.col max_choice h.right⟩
    intro q hq
    have hle : (r.first.row ≤ q.row ∨ q.row = p.row) ∧ (q.row ≤ r.last.row ∨ q.row = p.row) ∧
        (r.first.col ≤ q.col ∨ q.col = p.col) ∧ (q.col ≤ r.last.col ∨ q.col = p.col) := by
      rcases hq with hq | rfl
      · obtain ⟨⟨h₁, h₂⟩, h₃, h₄⟩ := h.contains q hq
        exact ⟨.inl h₁, .inl h₂, .inl h₃, .inl h₄⟩
      · exact ⟨.inr rfl, .inr rfl, .inr rfl, .inr rfl⟩
    refine ⟨⟨?_, ?_⟩, ?_, ?_⟩ <;> simp only <;> omega

/-- The rectangle that is put together from some cells, in the order in which they are visited. -/
def coverAll (cells : List (Position × Cell)) : Option Rectangle :=
  cells.foldl (fun r e => if e.2.value.isEmpty then r else cover r e.1) none

/-- Whether some cells have a value at a position. -/
def HoldsAt (cells : List (Position × Cell)) (p : Position) : Prop :=
  ∃ c, (p, c) ∈ cells ∧ c.value.isEmpty = false

theorem holdsAt_concat {cells : List (Position × Cell)} {e : Position × Cell} :
    HoldsAt (cells ++ [e]) p ↔ HoldsAt cells p ∨ p = e.1 ∧ e.2.value.isEmpty = false := by
  obtain ⟨q, c⟩ := e
  unfold HoldsAt
  simp only [List.mem_append, List.mem_singleton, Prod.mk.injEq]
  constructor
  · rintro ⟨b, hb | ⟨rfl, rfl⟩, hvalue⟩
    · exact .inl ⟨b, hb, hvalue⟩
    · exact .inr ⟨rfl, hvalue⟩
  · rintro (⟨b, hb, hvalue⟩ | ⟨rfl, hvalue⟩)
    · exact ⟨b, .inl hb, hvalue⟩
    · exact ⟨c, .inr ⟨rfl, rfl⟩, hvalue⟩

theorem isAround_coverAll (cells : List (Position × Cell)) :
    IsAround (HoldsAt cells) (coverAll cells) := by
  induction cells using List.reverseRecOn with
  | nil =>
    rintro p ⟨c, hc, -⟩
    cases hc
  | append_singleton cells e ih =>
    have hfold : coverAll (cells ++ [e]) =
        if e.2.value.isEmpty then coverAll cells else cover (coverAll cells) e.1 := by
      unfold coverAll
      rw [List.foldl_append]
      rfl
    have hholds : HoldsAt (cells ++ [e]) =
        fun p => HoldsAt cells p ∨ p = e.1 ∧ e.2.value.isEmpty = false :=
      funext fun p => propext holdsAt_concat
    rw [hfold, hholds]
    cases e.2.value.isEmpty with
    | true => simpa using ih
    | false => simpa using isAround_cover ih e.1

/-! ## Documents -/

/-- Whether the document has a value at a position. -/
def HasValue (d : Document) (p : Position) : Prop := (d.value p).isEmpty = false

variable {d : Document}

theorem hasValue_iff :
    HasValue d p ↔ ∃ c, d.cells[p]? = some c ∧ c.value.isEmpty = false := by
  unfold HasValue Document.value Document.cell
  cases d.cells[p]? with
  | none => simp [Value.isEmpty]
  | some c => simp

theorem holdsAt_toList_iff : HoldsAt d.cells.toList p ↔ HasValue d p := by
  simp only [HoldsAt, Std.ExtTreeMap.mem_toList_iff_getElem?_eq_some, hasValue_iff]

theorem populated?_eq_coverAll (d : Document) : populated? d = coverAll d.cells.toList :=
  Std.ExtTreeMap.foldl_eq_foldl_toList

theorem isAround_populated? (d : Document) : IsAround (HasValue d) (populated? d) := by
  have heq : HoldsAt d.cells.toList = HasValue d := funext fun p => propext holdsAt_toList_iff
  rw [populated?_eq_coverAll, ← heq]
  exact isAround_coverAll d.cells.toList

/-- The cells can be visited in any order. -/
theorem coverAll_eq_populated? {cells : List (Position × Cell)} (h : cells.Perm d.cells.toList) :
    coverAll cells = populated? d := by
  have heq : HoldsAt cells = HoldsAt d.cells.toList :=
    funext fun p => propext (exists_congr fun c => and_congr_left fun _ => h.mem_iff)
  have hv := isAround_coverAll cells
  rw [heq] at hv
  rw [populated?_eq_coverAll]
  exact hv.unique (isAround_coverAll _)

theorem populated?_eq_none_iff :
    populated? d = none ↔ ∀ (p : Position) (c : Cell), d.cells[p]? = some c → c.value.isEmpty := by
  have h := isAround_populated? d
  have hnone : (∀ p, ¬ HasValue d p) ↔
      ∀ (p : Position) (c : Cell), d.cells[p]? = some c → c.value.isEmpty := by
    simp only [hasValue_iff, not_exists, not_and, Bool.not_eq_false]
  rw [← hnone]
  constructor
  · intro hp
    rwa [hp] at h
  · exact fun hp => h.unique hp

theorem populated?_eq_some_iff : populated? d = some r ↔ r.IsLeastAround (HasValue d) := by
  have h := isAround_populated? d
  constructor
  · intro hsome
    rwa [hsome] at h
  · exact fun hsome => h.unique hsome

theorem exists_populated? (h : HasValue d p) : ∃ r, populated? d = some r := by
  have ha := isAround_populated? d
  cases hr : populated? d with
  | none =>
    rw [hr] at ha
    exact absurd h (ha p)
  | some r => exact ⟨r, rfl⟩

end Markdown

end Spreadsheet
