import Mathlib.Data.List.Forall2
import Spreadsheet.Proofs.Formula.Range

/-!
# Ranges cell by cell

A range among the parameters of a function may be written out as the names of its positions, row by
row (`WrittenOut`). Both come to the same values (`parametersValues_writtenOut`): the range takes
them from its rectangle at once, each name is read again, found inside the grid and contributes one
of them. Names have to be read for that, so the grid must not go on behind the bound of references.
-/

namespace Spreadsheet.Formula

variable {a : Position} {v : View} {rows cols : Nat} {p : Position} {parameter : List Char}
  {ps names : List (List Char)} {qss : List (List (List Char))}

/-- What a parameter may be replaced by: itself, or the names of its positions if it is a range. -/
inductive WrittenOut (a : Position) (rows cols : Nat) : List Char → List (List Char) → Prop where
  | same (parameter : List Char) : WrittenOut a rows cols parameter [parameter]
  | range {token : List Char} {r : Rectangle} : IsRange token →
      rangeRectangle token a rows cols = .ok r →
      WrittenOut a rows cols token (r.positions.map fun p => p.name.toList)

/-! ## Names -/

/-- Whether a view has cells, none of them behind the bound of references. -/
structure Bounded (v : View) : Prop where
  rows_pos : 1 ≤ v.rows
  cols_pos : 1 ≤ v.cols
  rows_le : v.rows ≤ maxCoordinate
  cols_le : v.cols ≤ maxCoordinate

theorem Bounded.not_empty (h : Bounded v) : ¬ (v.rows = 0 ∨ v.cols = 0) := by
  have := h.rows_pos
  have := h.cols_pos
  omega

/-- The name of a cell means the cell, at every anchor. -/
theorem position?_name (h : Bounded v) (hp : v.Contains p) (a : Position) :
    (Reference.parseAt? p.name.toList a).bind (·.position? a) = some p := by
  have hrow : p.row < maxCoordinate := Int.lt_of_lt_of_le (Int.ofNat_lt.mpr hp.1) h.rows_le
  have hcol : p.col < maxCoordinate := Int.lt_of_lt_of_le (Int.ofNat_lt.mpr hp.2) h.cols_le
  have hparse := Reference.parse?_name hrow (Int.le_of_lt hcol)
  have hbounds := Reference.inBounds_of_parse? hparse
  rw [Reference.parseAt?, hparse, Option.map_some, Option.bind_some, Reference.position?,
    Reference.rowAt_relativeTo a hbounds, Reference.colAt_relativeTo a hbounds]
  simp

theorem parameterValues_name (h : Bounded v) (hp : v.Contains p) (a : Position) :
    parameterValues v a p.name.toList = .ok [v.value p] := by
  have hmeans := position?_name h hp a
  obtain ⟨r, hr, -⟩ := Option.bind_eq_some_iff.mp hmeans
  unfold parameterValues
  rw [if_neg (Reference.colon_notMem_of_parseAt? hr), hmeans]
  simp only [if_pos hp]

/-! ## Lists of parameters -/

theorem parametersValues_cons (parameter : List Char) (ps : List (List Char)) (v : View)
    (a : Position) : parametersValues (parameter :: ps) v a =
      (parameterValues v a parameter).bind fun values =>
        (parametersValues ps v a).map (values ++ ·) := by
  unfold parametersValues
  rw [List.mapM_cons]
  cases parameterValues v a parameter with
  | error e => rfl
  | ok values => cases ps.mapM (parameterValues v a) <;> rfl

theorem parametersValues_names_append (h : Bounded v) {positions : List Position}
    (hp : ∀ p ∈ positions, v.Contains p) (ps : List (List Char)) (a : Position) :
    parametersValues (positions.map (fun p => p.name.toList) ++ ps) v a =
      (parametersValues ps v a).map (positions.map v.value ++ ·) := by
  induction positions with
  | nil =>
    simp only [List.map_nil, List.nil_append]
    cases parametersValues ps v a <;> rfl
  | cons p positions ih =>
    obtain ⟨hp, hpositions⟩ := List.forall_mem_cons.mp hp
    rw [List.map_cons, List.cons_append, parametersValues_cons, parameterValues_name h hp,
      ih hpositions]
    cases parametersValues ps v a <;> rfl

/-! ## Ranges -/

theorem parameterValues_range (h : Bounded v) {token : List Char} {r : Rectangle}
    (ht : IsRange token) (hr : rangeRectangle token a v.rows v.cols = .ok r) :
    parameterValues v a token = .ok (r.positions.map v.value) := by
  unfold parameterValues rangeBlock
  rw [if_pos ht.colon_mem, if_pos ht.colon_mem, if_neg h.not_empty, hr, ← r.flatten_block]
  rfl

theorem contains_of_mem_positions (h : Bounded v) {token : List Char} {r : Rectangle}
    (hr : rangeRectangle token a v.rows v.cols = .ok r) (hp : p ∈ r.positions) : v.Contains p := by
  obtain ⟨hrow, hcol⟩ := rangeRectangle_inside h.rows_pos h.cols_pos hr
  obtain ⟨⟨-, hprow⟩, -, hpcol⟩ := (Rectangle.mem_positions_iff (rangeRectangle_ordered hr)).mp hp
  exact ⟨Nat.lt_of_le_of_lt hprow hrow, Nat.lt_of_le_of_lt hpcol hcol⟩

/-- The rectangle lies in a grid whose lengths are indices, so its rows and columns can be counted. -/
theorem counts_of_rangeRectangle {token : List Char} {r : Rectangle} (hr : 1 ≤ rows) (hc : 1 ≤ cols)
    (hrows : rows ≤ Numeric.maxIndex) (hcols : cols ≤ Numeric.maxIndex)
    (h : rangeRectangle token a rows cols = .ok r) :
    r.rowCount = r.height ∧ r.colCount = r.width := by
  obtain ⟨hrow, hcol⟩ := rangeRectangle_inside hr hc h
  have hlt : ∀ {i j n : Nat}, i < n → n ≤ Numeric.maxIndex → i - j < Numeric.maxIndex :=
    fun hi hn => Nat.lt_of_le_of_lt (Nat.sub_le _ _) (Nat.lt_of_lt_of_le hi hn)
  exact ⟨Rectangle.rowCount_of_lt (hlt hrow hrows), Rectangle.colCount_of_lt (hlt hcol hcols)⟩

theorem parametersValues_append (h : Bounded v)
    (hw : WrittenOut a v.rows v.cols parameter names) (ps : List (List Char)) :
    parametersValues (names ++ ps) v a = parametersValues (parameter :: ps) v a := by
  cases hw with
  | same => rfl
  | range ht hr =>
    rw [parametersValues_names_append h fun p => contains_of_mem_positions h hr,
      parametersValues_cons, parameterValues_range h ht hr]
    rfl

theorem parametersValues_flatten (h : Bounded v)
    (hw : List.Forall₂ (WrittenOut a v.rows v.cols) ps qss) :
    parametersValues qss.flatten v a = parametersValues ps v a := by
  induction hw with
  | nil => rfl
  | cons hp _ ih =>
    rw [List.flatten_cons, parametersValues_append h hp, parametersValues_cons,
      parametersValues_cons, ih]

theorem call_aggregate {name : String} (hname : name ∈ aggregateNames) :
    ∃ f, ∀ ps v a, call name.toList ps v a = callAggregate f ps v a := by
  rcases action_cases name with ⟨-, -, f, hf⟩ | ⟨hn, -⟩ | ⟨hn, -⟩
  · refine ⟨f, fun ps v a => ?_⟩
    rw [call, String.ofList_toList, hf]
  · exact absurd hname hn
  · exact absurd hname hn

/-- Every range denotes a rectangle, and any ranges among the parameters of a function may be
written out as the names of the positions of their rectangles, row by row: the parameters come to
the same values or the same error, and so does every aggregate of them. -/
theorem parametersValues_writtenOut (h : Bounded v) (a : Position) :
    (∀ token, IsRange token → ∃ r, rangeRectangle token a v.rows v.cols = .ok r) ∧
      ∀ ps qss, List.Forall₂ (WrittenOut a v.rows v.cols) ps qss →
        parametersValues qss.flatten v a = parametersValues ps v a ∧
          ∀ name ∈ aggregateNames,
            call name.toList qss.flatten v a = call name.toList ps v a := by
  constructor
  · intro token ht
    cases hr : rangeRectangle token a v.rows v.cols with
    | ok r => exact ⟨r, rfl⟩
    | error e => exact absurd ht (rangeRectangle_eq_error_iff.mp hr).1
  · intro ps qss hw
    have hvalues := parametersValues_flatten h hw
    refine ⟨hvalues, fun name hname => ?_⟩
    obtain ⟨f, hf⟩ := call_aggregate hname
    rw [hf, hf, callAggregate, callAggregate, hvalues]

/-- A range that is written upwards and leaves the grid, in front of a parameter that is passed over
and one that is an error. -/
theorem parametersValues_writtenOut_of_threeByThree :
    Bounded threeByThree ∧ IsRange "$B9:C2".toList ∧
      rangeRectangle "$B9:C2".toList ⟨7, 7⟩ threeByThree.rows threeByThree.cols =
        .ok ⟨⟨1, 1⟩, ⟨2, 2⟩⟩ ∧
      parametersValues ["B2".toList, "C2".toList, "B3".toList, "C3".toList, "x".toList,
          "A1:".toList] threeByThree ⟨7, 7⟩ =
        parametersValues ["$B9:C2".toList, "x".toList, "A1:".toList] threeByThree ⟨7, 7⟩ ∧
      call "SUM".toList ["B2".toList, "C2".toList, "B3".toList, "C3".toList] threeByThree ⟨7, 7⟩ =
        call "SUM".toList ["$B9:C2".toList] threeByThree ⟨7, 7⟩ := by
  have h : Bounded threeByThree := ⟨by decide, by decide, by decide, by decide⟩
  have ht : IsRange "$B9:C2".toList := by decide
  have hr : rangeRectangle "$B9:C2".toList ⟨7, 7⟩ threeByThree.rows threeByThree.cols =
      .ok ⟨⟨1, 1⟩, ⟨2, 2⟩⟩ := by decide
  have hw := WrittenOut.range ht hr
  have hnames : (Rectangle.mk ⟨1, 1⟩ ⟨2, 2⟩).positions.map (fun p => p.name.toList) =
      ["B2".toList, "C2".toList, "B3".toList, "C3".toList] := by decide +kernel
  rw [hnames] at hw
  have hall := (parametersValues_writtenOut h ⟨7, 7⟩).2
  exact ⟨h, ht, hr, (hall _ _ (.cons hw (.cons (.same _) (.cons (.same _) .nil)))).1,
    (hall _ _ (.cons hw .nil)).2 "SUM" (by decide)⟩

end Spreadsheet.Formula
