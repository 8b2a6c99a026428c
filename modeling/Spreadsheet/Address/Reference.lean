import Spreadsheet.Address.Position
import Spreadsheet.Text.Blank
import Spreadsheet.Text.Casing

/-!
# References

A reference names a cell in a formula: column letters and a row number, either of them marked as
absolute by a dollar sign. A reference can be held relative to the cell it is written in, its
anchor: then the axes that are not absolute are kept as offsets from the anchor.

Coordinates of references are bounded. An anchor beyond the bound counts as standing on it.
-/

namespace Spreadsheet

/-- The greatest coordinate that a reference can hold, one below the power 63 of two. -/
def maxCoordinate : Int := 9223372036854775807

/-- The least coordinate or offset that a reference can hold. -/
def minCoordinate : Int := -9223372036854775808

/-- An index as a coordinate. -/
def coordinate (index : Nat) : Int := min index maxCoordinate

/-- The nearest coordinate to a number. -/
def nearestCoordinate (x : Int) : Int := max minCoordinate (min maxCoordinate x)

/-- A reference to a cell. An absolute axis holds a coordinate, a relative one an offset from the
anchor. -/
structure Reference where
  row : Int
  col : Int
  rowAbsolute : Bool
  colAbsolute : Bool
deriving DecidableEq, Repr

namespace Reference

/-- The parts of a reference as written: the marks, the letters and the digits. -/
structure Spelling where
  colMark : Bool
  letters : List Char
  rowMark : Bool
  digits : List Char
deriving DecidableEq, Repr

/-- Splits off a dollar sign. -/
def splitMark : List Char → Bool × List Char
  | '$' :: rest => (true, rest)
  | cs => (false, cs)

/-- The longest reference spelt at the start of a text, and what follows it. -/
def Spelling.scan? (cs : List Char) : Option (Spelling × List Char) :=
  let (colMark, afterMark) := splitMark cs
  let letters := afterMark.takeWhile Column.isLetter
  let (rowMark, afterLetters) := splitMark (afterMark.dropWhile Column.isLetter)
  let digits := afterLetters.takeWhile Numeric.isDigit
  if letters.isEmpty || digits.isEmpty then none
  else some (⟨colMark, letters, rowMark, digits⟩, afterLetters.dropWhile Numeric.isDigit)

theorem length_splitMark_le (cs : List Char) : (splitMark cs).2.length ≤ cs.length := by
  unfold splitMark
  split <;> simp

/-- A reference takes at least one character. -/
theorem Spelling.length_lt_of_scan? {cs rest : List Char} {s : Spelling}
    (h : Spelling.scan? cs = some (s, rest)) : rest.length < cs.length := by
  simp only [Spelling.scan?] at h
  split at h
  · cases h
  next hne =>
    simp only [Option.some.injEq, Prod.mk.injEq] at h
    have h₁ := length_splitMark_le cs
    have h₂ := length_splitMark_le ((splitMark cs).2.dropWhile Column.isLetter)
    have h₃ := congrArg List.length
      (List.takeWhile_append_dropWhile (p := Column.isLetter) (l := (splitMark cs).2))
    have h₄ := Numeric.length_dropWhile_le Numeric.isDigit
      (splitMark ((splitMark cs).2.dropWhile Column.isLetter)).2
    have h₅ : 0 < ((splitMark cs).2.takeWhile Column.isLetter).length := by
      simp only [List.length_pos_iff]
      grind
    simp only [List.length_append] at h₃
    rw [← h.2]
    omega

/-- The text of a spelling. -/
def Spelling.text (s : Spelling) : List Char :=
  (if s.colMark then ['$'] else []) ++ s.letters ++ (if s.rowMark then ['$'] else []) ++ s.digits

/-- The reference that a spelling denotes, its row counted from zero. A row number beyond the bound
denotes none; a column beyond it is the last one. -/
def ofSpelling? (s : Spelling) : Option Reference :=
  let number : Int := Numeric.digitsValue s.digits
  match Column.index? s.letters with
  | none => none
  | some col =>
    if number ≤ maxCoordinate then
      some ⟨number - 1, coordinate col, s.rowMark, s.colMark⟩
    else none

/-- Reads a text that is a reference and nothing else. -/
def parse? (token : List Char) : Option Reference :=
  match Spelling.scan? token with
  | some (spelling, []) => ofSpelling? spelling
  | _ => none

/-- The reference with its relative axes as offsets from an anchor. -/
def relativeTo (r : Reference) (anchor : Position) : Reference :=
  { r with
    row := if r.rowAbsolute then r.row else r.row - coordinate anchor.row
    col := if r.colAbsolute then r.col else r.col - coordinate anchor.col }

/-- Reads a reference written in the cell at `anchor`. -/
def parseAt? (token : List Char) (anchor : Position) : Option Reference :=
  (parse? token).map (·.relativeTo anchor)

/-- The row that a reference means when it is used at an anchor. -/
def rowAt (r : Reference) (anchor : Position) : Int :=
  if r.rowAbsolute then r.row else nearestCoordinate (coordinate anchor.row + r.row)

/-- The column that a reference means when it is used at an anchor. -/
def colAt (r : Reference) (anchor : Position) : Int :=
  if r.colAbsolute then r.col else nearestCoordinate (coordinate anchor.col + r.col)

/-- The position that a reference means at an anchor, unless it lies above or left of the grid. -/
def position? (r : Reference) (anchor : Position) : Option Position :=
  if 0 ≤ r.rowAt anchor ∧ 0 ≤ r.colAt anchor then
    some ⟨(r.rowAt anchor).toNat, (r.colAt anchor).toNat⟩
  else none

/-- The text of the coordinates held, with the marks. A column left of the grid has no name. -/
def text (r : Reference) : String :=
  let col := if 0 ≤ r.col then Column.name r.col.toNat else "?"
  let mark := fun absolute : Bool => if absolute then "$" else ""
  mark r.colAbsolute ++ col ++ mark r.rowAbsolute ++ toString (r.row + 1)

end Reference

/-- The position with a name, in either case and with or without dollar signs and blanks around. -/
def Position.ofName? (name : String) : Option Position :=
  (Reference.parse? (Text.upperAscii (Text.trim name.toList))).bind (·.position? .origin)

end Spreadsheet
