import Spreadsheet.Proofs.Address.Spelling

/-!
# The grammar of references

A reference is written as

    Reference ::= "$"? Letter Letter* "$"? Digit Digit*

and denotes the row below the number that the digits write and the column with the number that the
letters write, each axis absolute if there is a dollar sign in front of it (`Writes`). Both numbers
have a bound. A text with a row number beyond it is no reference, and neither is one with a column
that is no index. A column that is an index but lies beyond the bound of references is held as the
last column within it (`WritesBeyond`). There is nothing else that is read, and nothing else that is
read is changed (`parse?_eq_some_iff_writes`).
-/

namespace Spreadsheet.Reference

variable {s : Spelling} {token : List Char} {r : Reference}

/-- Whether a text is of the grammar, with a row number and a column within the bound, and writes
the reference. -/
def Writes (token : List Char) (r : Reference) : Prop :=
  ∃ s : Spelling, s.Proper ∧ s.text = token ∧ Numeric.digitsValue s.digits ≤ maxCoordinate ∧
    s.col ≤ maxCoordinate ∧ r = ⟨s.row, s.col, s.rowMark, s.colMark⟩

/-- Whether a text is of the grammar, with a row number within the bound and an index beyond it as
its column, and writes the row and the marks of the reference, which has the last column. -/
def WritesBeyond (token : List Char) (r : Reference) : Prop :=
  ∃ s : Spelling, s.Proper ∧ s.text = token ∧ Numeric.digitsValue s.digits ≤ maxCoordinate ∧
    (maxCoordinate < s.col ∧ s.col < Numeric.maxIndex) ∧
    r = ⟨s.row, maxCoordinate, s.rowMark, s.colMark⟩

theorem parse?_of_writes (h : Writes token r) : parse? token = some r := by
  obtain ⟨s, hs, rfl, hrow, hcol, rfl⟩ := h
  have hlt : s.col < Numeric.maxIndex := by
    simp only [maxCoordinate, Numeric.maxIndex] at hcol ⊢
    omega
  rw [parse?_text hs, hs.ofSpelling?_eq_some_iff, coordinate_of_le hcol]
  exact ⟨hrow, hlt, rfl⟩

theorem parse?_of_writesBeyond (h : WritesBeyond token r) : parse? token = some r := by
  obtain ⟨s, hs, rfl, hrow, ⟨hbeyond, hlt⟩, rfl⟩ := h
  rw [parse?_text hs, hs.ofSpelling?_eq_some_iff, coordinate_of_lt hbeyond]
  exact ⟨hrow, hlt, rfl⟩

theorem writes_or_writesBeyond_of_parse? (h : parse? token = some r) :
    Writes token r ∨ WritesBeyond token r := by
  obtain ⟨s, hs, ht, hread⟩ := parse?_eq_some_iff.mp h
  obtain ⟨hrow, hlt, rfl⟩ := hs.ofSpelling?_eq_some_iff.mp hread
  rcases Int.lt_or_le maxCoordinate s.col with hbeyond | hcol
  · rw [coordinate_of_lt hbeyond]
    exact .inr ⟨s, hs, ht, hrow, ⟨hbeyond, hlt⟩, rfl⟩
  · rw [coordinate_of_le hcol]
    exact .inl ⟨s, hs, ht, hrow, hcol, rfl⟩

/-- A text has one spelling, so its column is within the bound or beyond it. -/
theorem not_writes_of_writesBeyond {r' : Reference} (h : WritesBeyond token r) :
    ¬ Writes token r' := by
  rintro ⟨s', hs', ht', -, hcol, -⟩
  obtain ⟨s, hs, ht, -, ⟨hbeyond, -⟩, -⟩ := h
  obtain rfl := hs.eq_of_text_eq hs' (ht.trans ht'.symm)
  omega

/-- A text is read as the reference that the grammar says it writes, or, if its column is an index
beyond the bound, as one to the last column. So it is read as the grammar says if and only if its
column is not such. -/
theorem parse?_eq_some_iff_writes (token : List Char) :
    (∀ r, parse? token = some r ↔ Writes token r ∨ WritesBeyond token r) ∧
      ((∀ r, parse? token = some r ↔ Writes token r) ↔ ¬ ∃ r, WritesBeyond token r) := by
  have hread : ∀ r, parse? token = some r ↔ Writes token r ∨ WritesBeyond token r := fun r =>
    ⟨writes_or_writesBeyond_of_parse?, fun h => h.elim parse?_of_writes parse?_of_writesBeyond⟩
  refine ⟨hread, fun h => ?_, fun hno r => ?_⟩
  · rintro ⟨r, hr⟩
    exact not_writes_of_writesBeyond hr ((h r).mp (parse?_of_writesBeyond hr))
  · rw [hread, or_iff_left fun hr => hno ⟨r, hr⟩]

/-- The first column beyond the bound is read as the one before it. -/
theorem not_parse?_eq_some_iff_writes :
    ¬ ∀ (token : List Char) (r : Reference), parse? token = some r ↔ Writes token r := by
  intro h
  have hbeyond : WritesBeyond "CRPXNLSKVLJFHI1".toList ⟨0, maxCoordinate, false, false⟩ :=
    ⟨⟨false, "CRPXNLSKVLJFHI".toList, false, ['1']⟩,
      ⟨List.all_eq_true.mp (by decide), by decide, List.forall_mem_singleton.mpr rfl,
        by decide⟩, by decide, by decide, by decide, by decide⟩
  exact not_writes_of_writesBeyond hbeyond ((h _ _).mp (parse?_of_writesBeyond hbeyond))

end Spreadsheet.Reference
