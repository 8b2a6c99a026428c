import Spreadsheet.Proofs.Address.Grammar
import Spreadsheet.Proofs.Numeric.Layout
import Spreadsheet.Proofs.Text.Ascii

/-!
# Names of positions

The text of a reference is read back as the reference, if a reference can be read that has these
coordinates at all: a column in the grid, and a row in the grid or the one above it (`Readable`).

The name of a position is read back as the position, and so is every text that differs from the name
in nothing but the case of its letters, dollar signs, zeros in front of the row number and blanks
around it (`Position.IsName`). No other text is read as the position, unless it lies in the last
column within the bound, which stands for the columns beyond it (`names_read_back`).
-/

namespace Spreadsheet

/-! ## Texts of references -/

namespace Reference

variable {r : Reference} {token : List Char} {p : Position}

/-- Whether the coordinates of a reference are such as a text can have. -/
structure Readable (r : Reference) : Prop where
  row : -1 ≤ r.row ∧ r.row < maxCoordinate
  col : 0 ≤ r.col ∧ r.col ≤ maxCoordinate

theorem readable_of_parse? (h : parse? token = some r) : r.Readable := by
  obtain ⟨s, hs, -, hread⟩ := parse?_eq_some_iff.mp h
  obtain ⟨hrow, -, rfl⟩ := hs.ofSpelling?_eq_some_iff.mp hread
  have hnumber : s.row = Numeric.digitsValue s.digits - 1 := rfl
  constructor <;> simp only [coordinate, maxCoordinate] at hrow ⊢ <;> omega

/-- The spelling of a reference with zeros in front of the row number. -/
def spelling (r : Reference) (zeros : Nat) : Spelling where
  colMark := r.colAbsolute
  letters := Column.letters r.col.toNat
  rowMark := r.rowAbsolute
  digits := List.replicate zeros '0' ++ Numeric.digitChars (r.row + 1).toNat

theorem proper_spelling (r : Reference) (zeros : Nat) : (r.spelling zeros).Proper where
  letters _ := Column.isLetter_of_mem_lettersOf
  letters_ne := Column.lettersOf_ne_nil (Nat.succ_ne_zero _)
  digits c hc := by
    rcases List.mem_append.mp hc with hc | hc
    · exact Numeric.isDigit_of_mem_zeros hc
    · exact Numeric.isDigit_of_mem_digitChars hc
  digits_ne := List.append_ne_nil_of_right_ne_nil _ (Numeric.digitChars_ne_nil _)

theorem parse?_spelling (h : r.Readable) (zeros : Nat) :
    parse? (r.spelling zeros).text = some r := by
  obtain ⟨⟨hrow, hrow'⟩, hcol, hcol'⟩ := h
  have hnumber : Numeric.digitsValue (r.spelling zeros).digits = (r.row + 1).toNat := by
    rw [spelling, Numeric.digitsValue_zeros_append, Numeric.digitsValue_digitChars]
  have hr : (r.spelling zeros).row = r.row := by
    rw [Spelling.row, hnumber]
    omega
  have hc : (r.spelling zeros).col = r.col := by
    rw [Spelling.col, spelling, Column.letters, Column.value_lettersOf]
    omega
  refine parse?_of_writes ⟨r.spelling zeros, r.proper_spelling zeros, rfl, ?_, hc ▸ hcol', ?_⟩
  · omega
  · rw [hr, hc]
    rfl

theorem toList_text (h : r.Readable) : r.text.toList = (r.spelling 0).text := by
  obtain ⟨⟨hrow, -⟩, hcol, -⟩ := h
  have hnumber : ((r.row + 1).toNat : Int) = r.row + 1 := by omega
  have hdigits : (toString (r.row + 1)).toList = Numeric.digitChars (r.row + 1).toNat := by
    rw [← hnumber]
    exact Nat.toList_repr
  have hmark : ∀ absolute : Bool, (if absolute then "$" else "").toList =
      if absolute then ['$'] else [] := by decide
  simp only [text, hcol, if_true, String.toList_append, hmark, hdigits, spelling, Spelling.text,
    Column.name, String.toList_ofList]
  rfl

theorem parse?_toList_text (h : r.Readable) : parse? r.text.toList = some r := by
  rw [toList_text h, parse?_spelling h]

/-- At the first cell, the coordinates of a reference are those of the position it means. -/
theorem position?_origin (h : r.Readable) :
    r.position? .origin = some p ↔ r.row = p.row ∧ r.col = p.col := by
  obtain ⟨⟨hrow, hrow'⟩, hcol, hcol'⟩ := h
  have hr : r.rowAt .origin = r.row := by
    unfold rowAt nearestCoordinate coordinate Position.origin
    simp only [maxCoordinate, minCoordinate] at hrow' ⊢
    split <;> omega
  have hc : r.colAt .origin = r.col := by
    unfold colAt nearestCoordinate coordinate Position.origin
    simp only [maxCoordinate, minCoordinate] at hcol' ⊢
    split <;> omega
  obtain ⟨row, col⟩ := p
  rw [position?, hr, hc]
  split
  · simp only [Option.some.injEq, Position.mk.injEq]
    omega
  · simp only [reduceCtorEq, false_iff]
    omega

end Reference

/-! ## Capital and small letters -/

/-- Whether a character is a capital letter or the small letter for it. -/
def EitherCase (capital c : Char) : Prop := c = capital ∨ c = capital.toLower

variable {c capital : Char} {cs ds : List Char}

theorem toUpper_of_eitherCase (hl : Column.isLetter capital) (h : EitherCase capital c) :
    c.toUpper = capital := by
  have table : ∀ d < 26, (Column.letter d).toUpper = Column.letter d ∧
      (Column.letter d).toLower.toUpper = Column.letter d := by decide
  have hle := Column.digit_le hl
  have hpos := Column.digit_pos capital
  obtain ⟨hsame, hlower⟩ := table (Column.digit capital - 1) (by omega)
  rw [Column.letter_digit hl] at hsame hlower
  rcases h with rfl | rfl
  · exact hsame
  · exact hlower

/-- Putting a character in capitals keeps it, or it is the small letter for a capital one. -/
theorem toUpper_cases (c : Char) :
    c.toUpper = c ∨ Column.isLetter c.toUpper ∧ EitherCase c.toUpper c := by
  by_cases h : 97 ≤ c.toNat ∧ c.toNat ≤ 122
  · have table : ∀ d < 26, Column.isLetter (Char.ofNat (97 + d)).toUpper ∧
        Char.ofNat (97 + d) = (Char.ofNat (97 + d)).toUpper.toLower := by decide
    obtain ⟨hl, hc⟩ := table (c.toNat - 97) (by omega)
    rw [Nat.add_sub_cancel' h.1, Char.ofNat_toNat] at hl hc
    exact .inr ⟨hl, .inr hc⟩
  · exact .inl (Text.toUpper_of_not_small h)

theorem eitherCase_toUpper (c : Char) : EitherCase c.toUpper c :=
  (toUpper_cases c).elim (fun h => .inl h.symm) And.right

theorem toUpper_of_isBlank (h : Text.isBlank c) : c.toUpper = c := by
  refine Text.toUpper_of_not_small fun hsmall => ?_
  simp only [Text.isBlank, Bool.or_eq_true, Bool.and_eq_true, decide_eq_true_eq, beq_iff_eq] at h
  omega

theorem upperAscii_of_eitherCase (hl : ∀ c ∈ cs, Column.isLetter c)
    (h : List.Forall₂ EitherCase cs ds) : Text.upperAscii ds = cs := by
  induction h with
  | nil => rfl
  | cons h _ ih =>
    obtain ⟨hc, hcs⟩ := List.forall_mem_cons.mp hl
    rw [Text.upperAscii_cons, toUpper_of_eitherCase hc h, ih hcs]

theorem eitherCase_upperAscii (cs : List Char) :
    List.Forall₂ EitherCase (Text.upperAscii cs) cs :=
  List.forall₂_map_left_iff.mpr (List.forall₂_same.mpr fun c _ => eitherCase_toUpper c)

/-- A text that is put in capitals without a letter in the result is kept. -/
theorem eq_of_upperAscii_eq (hd : ∀ d ∈ ds, Column.isLetter d = false)
    (h : Text.upperAscii cs = ds) : cs = ds := by
  rw [← h, Text.upperAscii_eq_self]
  intro c hc
  refine (toUpper_cases c).resolve_right fun hl => ?_
  rw [hd _ (h ▸ List.mem_map_of_mem hc)] at hl
  exact absurd hl.1 (by decide)

namespace Reference

variable {s : Spelling} {r : Reference}

theorem not_isLetter_of_mem_mark {mark : Bool} (h : c ∈ if mark then ['$'] else []) :
    Column.isLetter c = false := by
  cases mark with
  | false => cases h
  | true =>
    obtain rfl := List.mem_singleton.mp h
    rfl

/-- In capitals, only the letters of a spelling change. -/
theorem Spelling.upperAscii_text (hd : ∀ c ∈ s.digits, Numeric.isDigit c) :
    Text.upperAscii s.text = { s with letters := Text.upperAscii s.letters }.text := by
  have hmark : ∀ mark : Bool, Text.upperAscii (if mark then ['$'] else []) =
      if mark then ['$'] else [] := by decide
  simp only [text, Text.upperAscii_append, hmark, Numeric.upperAscii_digits hd]

/-- A text that is a spelling in capitals is one with letters in either case. -/
theorem Spelling.Proper.exists_eq_text (hs : s.Proper) (h : Text.upperAscii cs = s.text) :
    ∃ letters, cs = { s with letters := letters }.text ∧
      List.Forall₂ EitherCase s.letters letters := by
  unfold Spelling.text at h
  obtain ⟨start, digits, rfl, h, hdigits⟩ := List.map_eq_append_iff.mp h
  obtain ⟨start, rowMark, rfl, h, hrowMark⟩ := List.map_eq_append_iff.mp h
  obtain ⟨colMark, letters, rfl, hcolMark, hletters⟩ := List.map_eq_append_iff.mp h
  refine ⟨letters, ?_, hletters ▸ eitherCase_upperAscii letters⟩
  rw [eq_of_upperAscii_eq (fun _ => not_isLetter_of_mem_mark) hcolMark,
    eq_of_upperAscii_eq (fun _ => not_isLetter_of_mem_mark) hrowMark,
    eq_of_upperAscii_eq (fun c hc => not_isLetter_of_isDigit (hs.digits c hc)) hdigits]
  rfl

/-- A text that is a reference in capitals has a character and no blanks. -/
theorem not_isBlank_of_parse?_upperAscii (h : parse? (Text.upperAscii cs) = some r) :
    ∀ c ∈ cs, Text.isBlank c = false := by
  intro c hc
  refine Bool.eq_false_iff.mpr fun hb => ?_
  have hmem := (of_parse? h).2 _ (List.mem_map_of_mem hc)
  have halphabet : ∀ c ∈ alphabet, Text.isBlank c = false := List.all_iff_forall_prop.mp (by decide)
  rw [toUpper_of_isBlank hb] at hmem
  exact absurd hb (by rw [halphabet c hmem]; decide)

end Reference

/-! ## Names -/

open Reference

variable {p : Position} {name : String}

/-- Whether a text is the name of a position, up to the case of the letters, dollar signs, zeros in
front of the row number and blanks around it. -/
def Position.IsName (p : Position) (text : List Char) : Prop :=
  ∃ (before after : List Char) (s : Spelling) (zeros : Nat),
    text = before ++ s.text ++ after ∧
      (∀ c ∈ before, Text.isBlank c) ∧ (∀ c ∈ after, Text.isBlank c) ∧
      List.Forall₂ EitherCase (Column.letters p.col) s.letters ∧
      s.digits = List.replicate zeros '0' ++ Numeric.digitChars (p.row + 1)

theorem ofName?_eq_some_iff : Position.ofName? name = some p ↔
    ∃ r, parse? (Text.upperAscii (Text.trim name.toList)) = some r ∧
      r.row = p.row ∧ r.col = p.col := by
  rw [Position.ofName?, Option.bind_eq_some_iff]
  constructor
  · rintro ⟨r, hr, hp⟩
    exact ⟨r, hr, (position?_origin (readable_of_parse? hr)).mp hp⟩
  · rintro ⟨r, hr, hp⟩
    exact ⟨r, hr, (position?_origin (readable_of_parse? hr)).mpr hp⟩

theorem ofName?_of_isName (hr : p.row < maxCoordinate) (hc : p.col ≤ maxCoordinate)
    (h : p.IsName name.toList) : Position.ofName? name = some p := by
  obtain ⟨before, after, s, zeros, ht, hb, ha, hletters, hdigits⟩ := h
  let r : Reference := ⟨p.row, p.col, s.rowMark, s.colMark⟩
  have hspelling : r.spelling zeros = { s with letters := Column.letters p.col } := by
    simp only [r, spelling, Int.toNat_natCast, hdigits]
    rfl
  have hread : parse? (Text.upperAscii s.text) = some r := by
    have hproper := r.proper_spelling zeros
    rw [hspelling] at hproper
    have hreadable : r.Readable := ⟨⟨by simp only [r]; omega, hr⟩, ⟨by simp only [r]; omega, hc⟩⟩
    have hd : ∀ c ∈ s.digits, Numeric.isDigit c := hproper.digits
    rw [Spelling.upperAscii_text hd, upperAscii_of_eitherCase hproper.letters hletters,
      ← hspelling, parse?_spelling hreadable]
  rw [ofName?_eq_some_iff, ht,
    Text.trim_padded_of_forall hb ha (not_isBlank_of_parse?_upperAscii hread)]
  exact ⟨r, hread, rfl, rfl⟩

theorem isName_of_ofName? (hc : p.col < maxCoordinate) (h : Position.ofName? name = some p) :
    p.IsName name.toList := by
  obtain ⟨r, hread, hrow, hcol⟩ := ofName?_eq_some_iff.mp h
  rcases writes_or_writesBeyond_of_parse? hread with hw | hw
  · obtain ⟨s, hs, ht, -, -, rfl⟩ := hw
    obtain ⟨letters, htrim, hcase⟩ := hs.exists_eq_text ht.symm
    obtain ⟨before, after, hname, hb, ha⟩ := Text.exists_trim name.toList
    have hvalue : Column.value s.letters = p.col + 1 := by
      have hpos := Column.value_pos hs.letters_ne
      have hcol : (s.col : Int) = p.col := hcol
      rw [Spelling.col] at hcol
      omega
    have hnumber : Numeric.digitsValue s.digits = p.row + 1 := by
      have hrow : s.row = p.row := hrow
      rw [Spelling.row] at hrow
      omega
    have hletters : Column.letters p.col = s.letters := by
      rw [Column.letters, ← hvalue, Column.lettersOf_value hs.letters]
    obtain ⟨zeros, hzeros⟩ := Numeric.eq_zeros_append_digitChars hs.digits (by omega)
    rw [hnumber] at hzeros
    exact ⟨before, after, { s with letters := letters }, zeros, htrim ▸ hname, hb, ha,
      hletters ▸ hcase, hzeros⟩
  · obtain ⟨s, -, -, -, -, rfl⟩ := hw
    have hcol : maxCoordinate = p.col := hcol
    omega

theorem Position.isName_name (p : Position) : p.IsName p.name.toList := by
  refine ⟨[], [], ⟨false, Column.letters p.col, false, Numeric.digitChars (p.row + 1)⟩, 0, ?_,
    nofun, nofun, List.forall₂_same.mpr fun c _ => .inl rfl, rfl⟩
  simp [Position.name, Spelling.text]

/-- The name of a position is read back as the position, in every way to write it, and in no other
if its column is not the last one. The text of a reference that was read is read back as the
reference. -/
theorem names_read_back :
    (∀ p : Position, p.row < maxCoordinate → p.col ≤ maxCoordinate →
      Position.ofName? p.name = some p ∧
        (∀ name : String, p.IsName name.toList → Position.ofName? name = some p) ∧
        (p.col < maxCoordinate → ∀ name : String, Position.ofName? name = some p →
          p.IsName name.toList)) ∧
      ∀ token r, parse? token = some r → parse? r.text.toList = some r :=
  ⟨fun p hr hc => ⟨ofName?_of_isName hr hc p.isName_name, fun _ => ofName?_of_isName hr hc,
    fun hlt _ => isName_of_ofName? hlt⟩, fun _ _ h => parse?_toList_text (readable_of_parse? h)⟩

/-- A name with all that may differ, the last position that has a name, and a reference to the row
above the first one. -/
theorem names_read_back_of_greatest :
    (((⟨9, 26⟩ : Position).row < maxCoordinate ∧ (⟨9, 26⟩ : Position).col < maxCoordinate) ∧
        (⟨9, 26⟩ : Position).IsName "\t$aA$0010 ".toList ∧
        Position.ofName? "aa10" = some ⟨9, 26⟩ ∧
        parse? "$C0".toList = some ⟨-1, 2, false, true⟩) ∧
      Position.ofName? "\t$aA$0010 " = some ⟨9, 26⟩ ∧
      (⟨9, 26⟩ : Position).IsName "aa10".toList ∧
      Position.ofName? (⟨9223372036854775806, 9223372036854775807⟩ : Position).name =
        some ⟨9223372036854775806, 9223372036854775807⟩ ∧
      parse? (⟨-1, 2, false, true⟩ : Reference).text.toList = some ⟨-1, 2, false, true⟩ := by
  have hbound : (⟨9, 26⟩ : Position).row < maxCoordinate ∧
      (⟨9, 26⟩ : Position).col < maxCoordinate := by decide
  have hletters : Column.letters 26 = ['A', 'A'] := by decide +kernel
  have hname : (⟨9, 26⟩ : Position).IsName "\t$aA$0010 ".toList := by
    refine ⟨['\t'], [' '], ⟨true, ['a', 'A'], true, "0010".toList⟩, 2, rfl,
      List.forall_mem_singleton.mpr rfl, List.forall_mem_singleton.mpr rfl, ?_, rfl⟩
    rw [hletters]
    exact .cons (.inr rfl) (.cons (.inl rfl) .nil)
  have hread : Position.ofName? "aa10" = some ⟨9, 26⟩ := by decide
  have hzero : parse? "$C0".toList = some ⟨-1, 2, false, true⟩ := by decide
  obtain ⟨-, hnames, honly⟩ := names_read_back.1 ⟨9, 26⟩ hbound.1 (Int.le_of_lt hbound.2)
  have hlast := (names_read_back.1 ⟨9223372036854775806, 9223372036854775807⟩ (by decide)
    (by decide)).1
  exact ⟨⟨hbound, hname, hread, hzero⟩, hnames _ hname, honly hbound.2 _ hread, hlast,
    names_read_back.2 _ _ hzero⟩

end Spreadsheet
