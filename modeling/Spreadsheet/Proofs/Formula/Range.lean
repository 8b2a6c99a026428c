import Spreadsheet.Proofs.Formula.Fault
import Spreadsheet.Proofs.Formula.References

/-!
# Ranges

A range is written with two opposite corners of a rectangle of cells. It makes no difference which
two, in which order, and which of their parts are marked as absolute: the range denotes
`rectangleBetween`, which lies inside the grid. Moving both corners into the grid and ordering them
then cuts the rectangle that is written off at the borders of the grid, as long as they meet
(`between_nearestIndex_iff`).

A column beyond the bound of references is held as the last one within it. A grid that goes on
behind the bound is cut there, and not where the range says: `rangeRectangle_between` says exactly
when the rectangle is the one that is written.

What is neither a reference nor a range is rejected, except where there is no grid to read from:
there every text with a colon passes (`rangeBlock_eq_error_iff`).
-/

namespace Spreadsheet

namespace Reference.Spelling

variable {s s₁ s₂ : Spelling}

/-- Whether a spelling is read as a reference. -/
structure Valid (s : Spelling) : Prop where
  proper : s.Proper
  isReference : Formula.IsReference s.text

/-- Whether the letters are read is a matter of the letters, and the same for the digits. -/
theorem valid_iff : s.Valid ↔
    (Column.index? s.letters).isSome ∧
      s.digits.all Numeric.isDigit ∧ s.digits ≠ [] ∧
        Numeric.digitsValue s.digits ≤ maxCoordinate := by
  constructor
  · rintro ⟨hproper, r, hr⟩
    rw [parse?_text hproper, ofSpelling?_eq_some_iff] at hr
    obtain ⟨col, hcol, hrow, -⟩ := hr
    exact ⟨Option.isSome_of_eq_some hcol, List.all_eq_true.mpr hproper.digits,
      hproper.digits_ne, hrow⟩
  · rintro ⟨hsome, hdigits, hne, hrow⟩
    obtain ⟨col, hcol⟩ := Option.isSome_iff_exists.mp hsome
    obtain ⟨hlne, hletters, -⟩ := Column.index?_eq_some_iff.mp hcol
    have hproper : s.Proper := ⟨hletters, hlne, List.all_eq_true.mp hdigits, hne⟩
    have hread := ofSpelling?_eq_some_iff.mpr ⟨col, hcol, hrow, rfl⟩
    exact ⟨hproper, _, (parse?_text hproper).trans hread⟩

instance (s : Spelling) : Decidable s.Valid := decidable_of_iff _ valid_iff.symm

/-- The letters of one reference and the digits of another make a third. -/
theorem Valid.cross (h₁ : s₁.Valid) (h₂ : s₂.Valid)
    (hletters : s.letters = s₁.letters ∨ s.letters = s₂.letters)
    (hdigits : s.digits = s₁.digits ∨ s.digits = s₂.digits) : s.Valid := by
  rw [valid_iff] at h₁ h₂ ⊢
  constructor
  · rcases hletters with h | h
    · rw [h]
      exact h₁.1
    · rw [h]
      exact h₂.1
  · rcases hdigits with h | h
    · rw [h]
      exact h₁.2
    · rw [h]
      exact h₂.2

/-- What a spelling is read as: the row that it writes, and the column up to the bound. -/
theorem Valid.parse?_eq (h : s.Valid) :
    parse? s.text = some ⟨s.row, coordinate s.col, s.rowMark, s.colMark⟩ := by
  obtain ⟨r, hr⟩ := h.isReference
  rw [parse?_text h.proper, h.proper.ofSpelling?_eq_some_iff] at hr
  obtain ⟨hrow, hlt, -⟩ := hr
  rw [parse?_text h.proper, h.proper.ofSpelling?_eq_some_iff]
  exact ⟨hrow, hlt, rfl⟩

end Reference.Spelling

namespace Formula

open Reference

variable {s s' s₁ s₂ : Spelling} {rows cols : Nat}

/-! ## Between two indices -/

/-- Whether an index lies between two coordinates, in either order. -/
def Between (x y : Int) (i : Nat) : Prop := min x y ≤ i ∧ i ≤ max x y

instance (x y : Int) (i : Nat) : Decidable (Between x y i) :=
  inferInstanceAs (Decidable (_ ∧ _))

/-- Both ends are moved into the grid, and what is between them then is what was between them
before and lies in the grid, if there is any. -/
theorem between_nearestIndex_iff {x y : Int} {length : Nat}
    (h : ∃ j < length, Between x y j) (i : Nat) :
    Between (nearestIndex x length) (nearestIndex y length) i ↔ i < length ∧ Between x y i := by
  obtain ⟨j, hj, hb⟩ := h
  unfold Between nearestIndex at *
  omega

/-- The bound of references is not noticed on an axis that ends there, nor by columns within it. -/
theorem nearestIndex_coordinate {i length : Nat}
    (h : length ≤ maxCoordinate + 1 ∨ i ≤ maxCoordinate) :
    nearestIndex (coordinate i) length = nearestIndex i length := by
  unfold nearestIndex coordinate
  omega

/-! ## The rectangle of a range -/

/-- Whether a text is a range between opposite corners of the rectangle that has two references for
corners. The columns and the rows may be the other way round, and marked or not. -/
def IsRangeBetween (s₁ s₂ : Spelling) (token : List Char) : Prop :=
  ∃ s s' : Spelling, token = s.text ++ ':' :: s'.text ∧
    (s.letters = s₁.letters ∧ s'.letters = s₂.letters ∨
      s.letters = s₂.letters ∧ s'.letters = s₁.letters) ∧
    (s.digits = s₁.digits ∧ s'.digits = s₂.digits ∨
      s.digits = s₂.digits ∧ s'.digits = s₁.digits)

/-- Whether a position lies in the rectangle that two references write. -/
def LiesBetween (s₁ s₂ : Spelling) (p : Position) : Prop :=
  Between s₁.row s₂.row p.row ∧ Between s₁.col s₂.col p.col

instance (s₁ s₂ : Spelling) (p : Position) : Decidable (LiesBetween s₁ s₂ p) :=
  inferInstanceAs (Decidable (_ ∧ _))

/-- The position of a grid that is nearest to what a spelling is read as. -/
def nearestTo (s : Spelling) (rows cols : Nat) : Position :=
  ⟨nearestIndex s.row rows, nearestIndex (coordinate s.col) cols⟩

/-- The rectangle that a range between two references denotes in a grid. -/
def rectangleBetween (s₁ s₂ : Spelling) (rows cols : Nat) : Rectangle :=
  .ofCorners (nearestTo s₁ rows cols) (nearestTo s₂ rows cols)

theorem contains_rectangleBetween_iff {p : Position} :
    (rectangleBetween s₁ s₂ rows cols).Contains p ↔
      Between (nearestIndex s₁.row rows) (nearestIndex s₂.row rows) p.row ∧
      Between (nearestIndex (coordinate s₁.col) cols) (nearestIndex (coordinate s₂.col) cols)
        p.col := by
  simp only [Rectangle.Contains, rectangleBetween, Rectangle.ofCorners, nearestTo, Between]
  omega

theorem rangeRectangle_text (h₁ : s₁.Valid) (h₂ : s₂.Valid) (a : Position) (rows cols : Nat) :
    rangeRectangle (s₁.text ++ ':' :: s₂.text) a rows cols =
      .ok (rectangleBetween s₁ s₂ rows cols) := by
  have htrim : ∀ {s : Spelling}, s.Valid → Text.trim s.text = s.text := by
    intro s h
    simpa using @IsReference.trim_padded s.text [] [] h.isReference (by simp) (by simp)
  have hnearest : ∀ {s : Spelling} {r : Reference}, s.Valid → parse? s.text = some r →
      nearestPosition (r.relativeTo a) a rows cols = nearestTo s rows cols := by
    intro s r h hr
    have hbounds := inBounds_of_parse? hr
    obtain rfl := Option.some.inj (h.parse?_eq.symm.trans hr)
    rw [nearestPosition, rowAt_relativeTo a hbounds, colAt_relativeTo a hbounds]
    rfl
  unfold rangeRectangle
  rw [rangeCorners?_eq, splitRange?_eq_some_iff.mpr ⟨rfl, h₁.isReference.colon_notMem⟩]
  simp only [Option.bind_some, htrim h₁, htrim h₂, h₁.parse?_eq, h₂.parse?_eq, Option.map_some,
    hnearest h₁ h₁.parse?_eq, hnearest h₂ h₂.parse?_eq]
  rfl

theorem rangeRectangle_of_isRangeBetween (h₁ : s₁.Valid) (h₂ : s₂.Valid) {token : List Char}
    (h : IsRangeBetween s₁ s₂ token) (a : Position) (rows cols : Nat) :
    rangeRectangle token a rows cols = .ok (rectangleBetween s₁ s₂ rows cols) := by
  obtain ⟨s, s', rfl, hletters, hdigits⟩ := h
  have hs : s.Valid := h₁.cross h₂ (hletters.imp And.left And.left) (hdigits.imp And.left And.left)
  have hs' : s'.Valid := h₂.cross h₁ (hletters.imp And.right And.right)
    (hdigits.imp And.right And.right)
  rw [rangeRectangle_text hs hs']
  -- The rectangle takes the lesser and the greater coordinate of both corners on each axis.
  simp only [rectangleBetween, Rectangle.ofCorners, nearestTo, Spelling.row, Spelling.col]
  rcases hletters with ⟨hl, hl'⟩ | ⟨hl, hl'⟩ <;> rcases hdigits with ⟨hd, hd'⟩ | ⟨hd, hd'⟩ <;>
    simp only [hl, hl', hd, hd', Nat.min_comm, Nat.max_comm]

/-- In a grid that ends within the bound of references, or between columns within it, a range
denotes the cells of the grid that lie between its corners. -/
theorem contains_iff_liesBetween {p : Position} (hp : (p.row < rows ∧ p.col < cols) ∧
      LiesBetween s₁ s₂ p)
    (h : cols ≤ maxCoordinate + 1 ∨ s₁.col ≤ maxCoordinate ∧ s₂.col ≤ maxCoordinate)
    (q : Position) :
    (rectangleBetween s₁ s₂ rows cols).Contains q ↔
      (q.row < rows ∧ q.col < cols) ∧ LiesBetween s₁ s₂ q := by
  obtain ⟨⟨hprow, hpcol⟩, hbrow, hbcol⟩ := hp
  have h₁ : nearestIndex (coordinate s₁.col) cols = nearestIndex s₁.col cols :=
    nearestIndex_coordinate (h.imp id And.left)
  have h₂ : nearestIndex (coordinate s₂.col) cols = nearestIndex s₂.col cols :=
    nearestIndex_coordinate (h.imp id And.right)
  rw [contains_rectangleBetween_iff, h₁, h₂, between_nearestIndex_iff ⟨p.row, hprow, hbrow⟩,
    between_nearestIndex_iff ⟨p.col, hpcol, hbcol⟩]
  unfold LiesBetween
  tauto

/-- In a grid that goes on behind the bound of references, a range that does so too leaves out a
cell of the grid between its corners. -/
theorem exists_not_contains {p : Position} (hp : (p.row < rows ∧ p.col < cols) ∧
      LiesBetween s₁ s₂ p)
    (h : ¬ (cols ≤ maxCoordinate + 1 ∨ s₁.col ≤ maxCoordinate ∧ s₂.col ≤ maxCoordinate)) :
    ∃ q : Position, ((q.row < rows ∧ q.col < cols) ∧ LiesBetween s₁ s₂ q) ∧
      ¬ (rectangleBetween s₁ s₂ rows cols).Contains q := by
  -- The greater of the two columns, or the last one of the grid.
  obtain ⟨⟨hprow, hpcol⟩, hbrow, hbcol⟩ := hp
  refine ⟨⟨p.row, min (max s₁.col s₂.col) (cols - 1)⟩, ⟨⟨hprow, ?_⟩, hbrow, ?_⟩, ?_⟩
  · simp only
    omega
  · unfold Between at hbcol ⊢
    simp only
    omega
  · rw [contains_rectangleBetween_iff]
    rintro ⟨-, hcol⟩
    unfold Between nearestIndex coordinate at hcol
    unfold maxCoordinate at hcol h
    simp only at hcol
    omega

/-- A range between two references denotes a rectangle inside the grid, the same at every anchor and
for every way to write it. If a cell of the grid lies between the references, the rectangle is made
of all such cells, unless the grid goes on behind the bound of references and a column of the range
is beyond it. -/
theorem rangeRectangle_between (h₁ : s₁.Valid) (h₂ : s₂.Valid) (hr : 1 ≤ rows) (hc : 1 ≤ cols) :
    ∃ r : Rectangle,
      (∀ token a, IsRangeBetween s₁ s₂ token → rangeRectangle token a rows cols = .ok r) ∧
      (r.first.row ≤ r.last.row ∧ r.first.col ≤ r.last.col) ∧
      (r.last.row < rows ∧ r.last.col < cols) ∧
      ((∃ p : Position, (p.row < rows ∧ p.col < cols) ∧ LiesBetween s₁ s₂ p) →
        ((∀ p, r.Contains p ↔ (p.row < rows ∧ p.col < cols) ∧ LiesBetween s₁ s₂ p) ↔
          cols ≤ maxCoordinate + 1 ∨ s₁.col ≤ maxCoordinate ∧ s₂.col ≤ maxCoordinate)) := by
  have hok := rangeRectangle_text h₁ h₂ .origin rows cols
  refine ⟨rectangleBetween s₁ s₂ rows cols,
    fun token a h => rangeRectangle_of_isRangeBetween h₁ h₂ h a rows cols,
    ⟨rangeRectangle_ordered hok .row, rangeRectangle_ordered hok .column⟩,
    rangeRectangle_inside hr hc hok, ?_⟩
  rintro ⟨p, hp⟩
  refine ⟨fun hall => ?_, contains_iff_liesBetween hp⟩
  by_contra hbound
  obtain ⟨q, hq, hn⟩ := exists_not_contains hp hbound
  exact hn ((hall q).mpr hq)

/-- A range from above the grid to the right of it, and from below it up, with the same rectangle,
that of the cells of the grid between its corners. -/
theorem rangeRectangle_between_of_outside :
    ∃ s₁ s₂ : Spelling, (s₁.Valid ∧ s₂.Valid) ∧ s₁.text = "$B0".toList ∧ s₂.text = "Z2".toList ∧
      ∃ r : Rectangle, rangeRectangle "$B0:Z2".toList ⟨7, 7⟩ 3 3 = .ok r ∧
        rangeRectangle "Z0:B$2".toList .origin 3 3 = .ok r ∧
        ∀ p, r.Contains p ↔ (p.row < 3 ∧ p.col < 3) ∧ LiesBetween s₁ s₂ p := by
  let s₁ : Spelling := ⟨true, ['B'], false, ['0']⟩
  let s₂ : Spelling := ⟨false, ['Z'], false, ['2']⟩
  have h₁ : s₁.Valid := by decide
  have h₂ : s₂.Valid := by decide
  have hmeets : ((⟨1, 1⟩ : Position).row < 3 ∧ (⟨1, 1⟩ : Position).col < 3) ∧
      LiesBetween s₁ s₂ ⟨1, 1⟩ := by decide
  obtain ⟨r, hall, -, -, hcells⟩ :=
    @rangeRectangle_between s₁ s₂ 3 3 h₁ h₂ (by decide) (by decide)
  refine ⟨s₁, s₂, ⟨h₁, h₂⟩, rfl, rfl, r, hall _ _ ?_, hall _ _ ?_,
    (hcells ⟨_, hmeets⟩).mpr (.inl (by decide))⟩
  · exact ⟨s₁, s₂, rfl, .inl ⟨rfl, rfl⟩, .inl ⟨rfl, rfl⟩⟩
  · exact ⟨⟨false, ['Z'], false, ['0']⟩, ⟨false, ['B'], true, ['2']⟩, rfl, .inr ⟨rfl, rfl⟩,
      .inl ⟨rfl, rfl⟩⟩

/-- The first column beyond the bound of references is no longer the one that is read. -/
theorem not_contains_iff_liesBetween :
    ¬ ∀ (s₁ s₂ : Spelling) (rows cols : Nat) (token : List Char) (a : Position) (r : Rectangle),
      s₁.Valid → s₂.Valid → 1 ≤ rows → 1 ≤ cols → IsRangeBetween s₁ s₂ token →
        rangeRectangle token a rows cols = .ok r →
        (∃ p : Position, (p.row < rows ∧ p.col < cols) ∧ LiesBetween s₁ s₂ p) →
        ∀ p, r.Contains p ↔ (p.row < rows ∧ p.col < cols) ∧ LiesBetween s₁ s₂ p := by
  intro h
  let s : Spelling := ⟨false, "CRPXNLSKVLJFHI".toList, false, ['1']⟩
  have hs : s.Valid := by decide
  let p : Position := ⟨0, 9223372036854775808⟩
  have hp : (p.row < 1 ∧ p.col < Numeric.maxIndex) ∧ LiesBetween s s p := by decide
  have hcell := (h s s 1 Numeric.maxIndex _ .origin _ hs hs (by decide) (by decide)
    ⟨s, s, rfl, .inl ⟨rfl, rfl⟩, .inl ⟨rfl, rfl⟩⟩ (rangeRectangle_text hs hs _ _ _)
    ⟨p, hp⟩ p).mpr hp
  exact absurd hcell (by decide)

/-! ## What is rejected -/

/-- Whether a text is neither a reference nor a range. -/
def Malformed (token : List Char) : Prop := ¬ IsReference token ∧ ¬ IsRange token

instance (token : List Char) : Decidable (Malformed token) :=
  inferInstanceAs (Decidable (_ ∧ _))

/-- What is said of a text that is rejected: that it is no range if it has the colon of one, else
that it is no reference. -/
def rejection (token : List Char) : Error :=
  if ':' ∈ token then .invalidRange (String.ofList token)
  else .invalidReference (String.ofList token)

theorem rangeBlock_eq_error_iff_of_colon {token : List Char} (hc : ':' ∈ token) {view : View}
    {a : Position} {e : Error} : rangeBlock token view a = .error e ↔
      ¬ IsRange token ∧ e = .invalidRange (String.ofList token) ∧
        ¬ (view.rows = 0 ∨ view.cols = 0) := by
  unfold rangeBlock
  rw [if_pos hc]
  by_cases hv : view.rows = 0 ∨ view.cols = 0
  · simp [hv]
  · rw [if_neg hv, ← and_assoc, and_iff_left hv,
      ← @rangeRectangle_eq_error_iff token a view.rows view.cols]
    cases rangeRectangle token a view.rows view.cols <;> simp [Except.map]

theorem rangeBlock_eq_error_iff_of_no_colon {token : List Char} (hc : ':' ∉ token) {view : View}
    {a : Position} {e : Error} : rangeBlock token view a = .error e ↔
      ¬ IsReference token ∧ e = .invalidReference (String.ofList token) := by
  unfold rangeBlock IsReference Reference.parseAt?
  rw [if_neg hc]
  cases parse? token <;> simp [eq_comm]

/-- A text is rejected if and only if it is neither a reference nor a range, and for that reason,
unless it has a colon and there is no grid to read from. -/
theorem rangeBlock_eq_error_iff (token : List Char) (view : View) (a : Position) (e : Error) :
    rangeBlock token view a = .error e ↔
      Malformed token ∧ e = rejection token ∧
        ¬ (':' ∈ token ∧ (view.rows = 0 ∨ view.cols = 0)) := by
  unfold Malformed rejection
  by_cases hc : ':' ∈ token
  · have hn : ¬ IsReference token := fun h => h.colon_notMem hc
    simp [rangeBlock_eq_error_iff_of_colon hc, hc, hn]
  · have hn : ¬ IsRange token := fun h => hc h.colon_mem
    simp [rangeBlock_eq_error_iff_of_no_colon hc, hc, hn]

/-- In a grid without cells, two texts that are no references pass as a range. -/
theorem not_rejected_iff_malformed :
    ¬ ∀ (token : List Char) (view : View) (a : Position),
      (∃ e, rangeBlock token view a = .error e) ↔ Malformed token := by
  intro h
  have hm : Malformed "foo:bar".toList := by decide
  obtain ⟨e, he⟩ := (h _ ⟨0, 0, fun _ => .empty⟩ .origin).mpr hm
  cases he

end Formula

end Spreadsheet
