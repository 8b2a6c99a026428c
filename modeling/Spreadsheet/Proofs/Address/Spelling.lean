import Mathlib.Data.List.TakeWhile
import Spreadsheet.Address.Reference
import Spreadsheet.Proofs.Address.Column
import Spreadsheet.Proofs.Numeric.Digits
import Spreadsheet.Proofs.Text.Stretch

/-!
# The text of references

What `Spelling.scan?` takes from the start of a text is the text of the spelling it returns, made of
dollar signs, letters and digits (`Spelling.of_scan?`). The other way round, the text of such a
spelling is read as that spelling (`Spelling.scan?_append`). So the texts that are references are the
texts of the spellings that denote one (`parse?_eq_some_iff`), and the name of a position is one of
them (`parse?_name`).
-/

namespace Spreadsheet.Reference

variable {cs rest : List Char} {s : Spelling}

/-- Whether a spelling has letters for its letters and digits for its digits, at least one each. -/
structure Spelling.Proper (s : Spelling) : Prop where
  letters : ∀ c ∈ s.letters, Column.isLetter c
  letters_ne : s.letters ≠ []
  digits : ∀ c ∈ s.digits, Numeric.isDigit c
  digits_ne : s.digits ≠ []

/-- The row that a spelling writes, counted from zero. The number 0 writes the row above the first
one. -/
def Spelling.row (s : Spelling) : Int := Numeric.digitsValue s.digits - 1

/-- The column that a spelling writes. -/
def Spelling.col (s : Spelling) : Nat := Column.value s.letters - 1

theorem splitMark_append (cs : List Char) :
    (if (splitMark cs).1 then ['$'] else []) ++ (splitMark cs).2 = cs := by
  unfold splitMark
  split <;> simp

theorem splitMark_of_ne {c : Char} (h : c ≠ '$') (cs : List Char) :
    splitMark (c :: cs) = (false, c :: cs) := by
  unfold splitMark
  split
  · rename_i hc
    exact absurd (List.cons.inj hc).1 h
  · rfl

theorem splitMark_marked {c : Char} (h : c ≠ '$') (cs : List Char) (mark : Bool) :
    splitMark ((if mark then ['$'] else []) ++ c :: cs) = (mark, c :: cs) := by
  cases mark with
  | false => exact splitMark_of_ne h cs
  | true => rfl

/-- The parts of a spelling, read off the text it was scanned from. -/
theorem Spelling.of_scan? (h : Spelling.scan? cs = some (s, rest)) :
    s.text ++ rest = cs ∧ s.Proper := by
  simp only [Spelling.scan?] at h
  split at h
  · cases h
  · rename_i hne
    simp only [Bool.or_eq_true, List.isEmpty_iff, not_or] at hne
    simp only [Option.some.injEq, Prod.mk.injEq] at h
    obtain ⟨rfl, rfl⟩ := h
    refine ⟨?_, fun c hc => List.mem_takeWhile_imp hc, hne.1, fun c hc => List.mem_takeWhile_imp hc,
      hne.2⟩
    simp only [Spelling.text, List.append_assoc, List.takeWhile_append_dropWhile, splitMark_append]

theorem ne_mark_of_isLetter {c : Char} (h : Column.isLetter c) : c ≠ '$' := by
  rintro rfl
  exact absurd h (by decide)

theorem ne_mark_of_isDigit {c : Char} (h : Numeric.isDigit c) : c ≠ '$' := by
  rintro rfl
  exact absurd h (by decide)

theorem not_isLetter_of_isDigit {c : Char} (h : Numeric.isDigit c) :
    Column.isLetter c = false := by
  have hd := Numeric.isDigit_iff.mp h
  refine Bool.eq_false_iff.mpr fun hl => ?_
  have hl := Column.isLetter_iff.mp hl
  omega

/-- A spelling is read off its own text, unless its digits go on behind it. -/
theorem Spelling.scan?_append (h : s.Proper) (hr : StopsAt Numeric.isDigit rest) :
    Spelling.scan? (s.text ++ rest) = some (s, rest) := by
  -- The letters end at a dollar sign or a digit, so both marks and both runs are found one by one.
  obtain ⟨colMark, letters, rowMark, digits⟩ := s
  obtain ⟨hletters, hlne, hdigits, hdne⟩ := h
  simp only at hletters hlne hdigits hdne
  obtain ⟨c, letters, rfl⟩ := List.exists_cons_of_ne_nil hlne
  obtain ⟨d, digits, rfl⟩ := List.exists_cons_of_ne_nil hdne
  have hc := ne_mark_of_isLetter (hletters c (.head _))
  have hd := hdigits d (.head _)
  have hstop : StopsAt Column.isLetter
      ((if rowMark then ['$'] else []) ++ d :: (digits ++ rest)) := by
    cases rowMark with
    | false => exact stopsAt_cons (not_isLetter_of_isDigit hd) _
    | true => exact stopsAt_cons (by decide) _
  have htext : text ⟨colMark, c :: letters, rowMark, d :: digits⟩ ++ rest =
      (if colMark then ['$'] else []) ++
        c :: (letters ++ ((if rowMark then ['$'] else []) ++ d :: (digits ++ rest))) := by
    simp [text]
  rw [htext, scan?, splitMark_marked hc]
  simp only [← List.cons_append (a := c), takeWhile_append_stopsAt hletters hstop,
    dropWhile_append_stopsAt hletters hstop, splitMark_marked (ne_mark_of_isDigit hd)]
  simp only [← List.cons_append (a := d), takeWhile_append_stopsAt hdigits hr,
    dropWhile_append_stopsAt hdigits hr]
  rfl

/-- A text has one spelling. -/
theorem Spelling.Proper.eq_of_text_eq {s' : Spelling} (h : s.Proper) (h' : s'.Proper)
    (ht : s.text = s'.text) : s = s' := by
  have hs := scan?_append h (stopsAt_nil Numeric.isDigit)
  rw [ht, scan?_append h' (stopsAt_nil Numeric.isDigit)] at hs
  exact (Prod.mk.inj (Option.some.inj hs)).1.symm

/-! ## Texts that are references -/

theorem parse?_text (h : s.Proper) : parse? s.text = ofSpelling? s := by
  have hscan := Spelling.scan?_append h (stopsAt_nil Numeric.isDigit)
  rw [List.append_nil] at hscan
  rw [parse?, hscan]

theorem parse?_eq_some_iff {token : List Char} {r : Reference} :
    parse? token = some r ↔ ∃ s : Spelling, s.Proper ∧ s.text = token ∧ ofSpelling? s = some r := by
  constructor
  · intro h
    unfold parse? at h
    split at h
    · rename_i s hs
      obtain ⟨ht, hproper⟩ := Spelling.of_scan? hs
      rw [List.append_nil] at ht
      exact ⟨s, hproper, ht, h⟩
    · cases h
  · rintro ⟨s, hproper, rfl, h⟩
    rw [parse?_text hproper, h]

theorem ofSpelling?_eq_some_iff {r : Reference} :
    ofSpelling? s = some r ↔ ∃ col, Column.index? s.letters = some col ∧
      Numeric.digitsValue s.digits ≤ maxCoordinate ∧
        ⟨Numeric.digitsValue s.digits - 1, coordinate col, s.rowMark, s.colMark⟩ = r := by
  unfold ofSpelling?
  cases Column.index? s.letters with
  | none => simp
  | some col => simp

/-- Letters are a name of the column that they write, as long as it is an index. -/
theorem Spelling.Proper.index?_eq_some_iff (h : s.Proper) {col : Nat} :
    Column.index? s.letters = some col ↔ s.col = col ∧ s.col < Numeric.maxIndex := by
  have hpos := Column.value_pos h.letters_ne
  rw [Column.index?_eq_some_iff, and_iff_right h.letters_ne, and_iff_right h.letters, Spelling.col]
  omega

/-- A spelling denotes the row and the column that it writes, the column up to the bound. -/
theorem Spelling.Proper.ofSpelling?_eq_some_iff (h : s.Proper) :
    ofSpelling? s = some r ↔ Numeric.digitsValue s.digits ≤ maxCoordinate ∧
      s.col < Numeric.maxIndex ∧ r = ⟨s.row, coordinate s.col, s.rowMark, s.colMark⟩ := by
  rw [Reference.ofSpelling?_eq_some_iff]
  constructor
  · rintro ⟨col, hcol, hrow, rfl⟩
    obtain ⟨rfl, hlt⟩ := h.index?_eq_some_iff.mp hcol
    exact ⟨hrow, hlt, rfl⟩
  · rintro ⟨hrow, hlt, rfl⟩
    exact ⟨s.col, h.index?_eq_some_iff.mpr ⟨rfl, hlt⟩, hrow, rfl⟩

theorem coordinate_of_le {i : Nat} (h : i ≤ maxCoordinate) : coordinate i = i := by
  unfold coordinate
  omega

theorem coordinate_of_lt {i : Nat} (h : maxCoordinate < i) : coordinate i = maxCoordinate := by
  unfold coordinate
  omega

/-- The name of a position within the bound is a reference to it. -/
theorem parse?_name {p : Position} (hr : p.row < maxCoordinate) (hc : p.col ≤ maxCoordinate) :
    parse? p.name.toList = some ⟨p.row, p.col, false, false⟩ := by
  have hcol : p.col < Numeric.maxIndex := by
    simp only [maxCoordinate, Numeric.maxIndex] at hc ⊢
    omega
  have hindex := Column.index?_letters hcol
  obtain ⟨hlne, hletters, -⟩ := Column.index?_eq_some_iff.mp hindex
  refine parse?_eq_some_iff.mpr ⟨⟨false, Column.letters p.col, false,
    Numeric.digitChars (p.row + 1)⟩, ⟨hletters, hlne, fun c => Numeric.isDigit_of_mem_digitChars,
      Numeric.digitChars_ne_nil _⟩, ?_, ofSpelling?_eq_some_iff.mpr ⟨p.col, hindex, ?_, ?_⟩⟩
  · simp [Spelling.text, Position.name]
  · rw [Numeric.digitsValue_digitChars]
    omega
  · simp [coordinate_of_le hc]

/-- The characters of references. -/
def alphabet : List Char := '$' :: (List.range' 48 10 ++ List.range' 65 26).map Char.ofNat

theorem mem_alphabet_of_isLetter {c : Char} (h : Column.isLetter c) : c ∈ alphabet := by
  obtain ⟨hA, hZ⟩ := Column.isLetter_iff.mp h
  refine .tail _ (List.mem_map.mpr ⟨c.toNat, List.mem_append_right _ ?_, Char.ofNat_toNat c⟩)
  exact List.mem_range'_1.mpr ⟨hA, by omega⟩

theorem mem_alphabet_of_isDigit {c : Char} (h : Numeric.isDigit c) : c ∈ alphabet := by
  obtain ⟨h0, h9⟩ := Numeric.isDigit_iff.mp h
  refine .tail _ (List.mem_map.mpr ⟨c.toNat, List.mem_append_left _ ?_, Char.ofNat_toNat c⟩)
  exact List.mem_range'_1.mpr ⟨h0, by omega⟩

/-- A text that is a reference has a character, and none but dollar signs, digits and capital
letters. -/
theorem of_parse? {token : List Char} {r : Reference} (h : parse? token = some r) :
    token ≠ [] ∧ ∀ c ∈ token, c ∈ alphabet := by
  obtain ⟨s, ⟨hl, hne, hd, -⟩, rfl, -⟩ := parse?_eq_some_iff.mp h
  refine ⟨by simp [Spelling.text, hne], fun c hc => ?_⟩
  have hmark : ∀ {mark : Bool}, c ∈ (if mark then ['$'] else []) → c ∈ alphabet := by
    intro mark hc
    cases mark with
    | false => cases hc
    | true =>
      obtain rfl := List.mem_singleton.mp hc
      exact .head _
  simp only [Spelling.text, List.mem_append] at hc
  rcases hc with ((hc | hc) | hc) | hc
  · exact hmark hc
  · exact mem_alphabet_of_isLetter (hl c hc)
  · exact hmark hc
  · exact mem_alphabet_of_isDigit (hd c hc)

theorem colon_notMem_of_parse? {token : List Char} {r : Reference} (h : parse? token = some r) :
    ':' ∉ token :=
  fun hc => absurd ((of_parse? h).2 ':' hc) (by decide)

theorem colon_notMem_of_parseAt? {token : List Char} {anchor : Position} {r : Reference}
    (h : parseAt? token anchor = some r) : ':' ∉ token := by
  obtain ⟨r, hr, -⟩ := Option.map_eq_some_iff.mp h
  exact colon_notMem_of_parse? hr

end Spreadsheet.Reference
