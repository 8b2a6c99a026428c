import Spreadsheet.Pattern.Reader
import Spreadsheet.Proofs.Pattern.Number

/-!
# Reading patterns

What the reader makes of the start of a pattern, whatever parts it has read before and whatever
follows: a repetition (`readParts_repetition`), a group (`readParts_group`), branches
(`readBranches_more`, `readBranches_last`). Step by step this gives the pattern of a number as it is
read (`parse_numberText`). What the sets in it come to is shown on its own, since their spans are
sorted and sorting is no matter of unfolding.
-/

namespace Spreadsheet.Pattern

open Text (CodeSet Span)

/-- The state of reading under the usual options, outside all groups that can be referred to. -/
def reading (length : Nat) (ahead : List Char) : ReadState := { length, ahead }

section Parts

variable {length fuel depth : Nat} {rest after : List Char} {parts branches : List Part}
  {node : Node} {branch body : Part}

/-- The rounds that an operator of one character asks for. -/
def rounds? : Char → Option (Nat × Option Nat)
  | '*' => some (0, none)
  | '+' => some (1, none)
  | '?' => some (0, some 1)
  | _ => none

theorem rounds?_cases {operator : Char} {least : Nat} {most : Option Nat}
    (h : rounds? operator = some (least, most)) :
    operator = '*' ∧ least = 0 ∧ most = none ∨ operator = '+' ∧ least = 1 ∧ most = none ∨
      operator = '?' ∧ least = 0 ∧ most = some 1 := by
  unfold rounds? at h
  split at h <;> simp_all

variable {operator : Char} {least : Nat} {most : Option Nat}

/-- Without a further question mark behind it, an operator asks for as many rounds as possible. -/
theorem readRepetition_eq (ho : rounds? operator = some (least, most))
    (hrest : rest.head? ≠ some '?') (part : Part) :
    (readRepetition operator part).run (reading length (operator :: rest)) =
      .ok ({ node := part.node.repeated least most true, depth := part.depth + 1 },
        reading length rest) := by
  have hlazy : (rest.head? == some '?') = false := by simpa using hrest
  have hread : (readRepetition operator part).run (reading length (operator :: rest)) = (do
      if rest.head? == some '?' then advance
      let greedy := (rest.head? == some '?') == (← get).options.swapGreed
      return { node := part.node.repeated least most greedy, depth := part.depth + 1 } :
        ReadM Part).run (reading length rest) := by
    rcases rounds?_cases ho with ⟨rfl, rfl, rfl⟩ | ⟨rfl, rfl, rfl⟩ | ⟨rfl, rfl, rfl⟩ <;> rfl
  rw [hread, hlazy]
  rfl

theorem readParts_repetition (ho : rounds? operator = some (least, most))
    (rest : List Char) (hrest : rest.head? ≠ some '?') :
    (readParts (fuel + 1) (⟨node, depth, true⟩ :: parts)).run (reading length (operator :: rest)) =
      (readParts fuel (⟨node.repeated least most true, depth + 1, true⟩ :: parts)).run
        (reading length rest) := by
  have hread : (readParts (fuel + 1) (⟨node, depth, true⟩ :: parts)).run
      (reading length (operator :: rest)) = (do
        readParts fuel ((← readRepetition operator ⟨node, depth, true⟩) :: parts)).run
          (reading length (operator :: rest)) := by
    rcases rounds?_cases ho with ⟨rfl, rfl, rfl⟩ | ⟨rfl, rfl, rfl⟩ | ⟨rfl, rfl, rfl⟩ <;> rfl
  rw [hread, StateT.run_bind, readRepetition_eq ho hrest]
  rfl

theorem readParts_textStart (rest : List Char) :
    (readParts (fuel + 1) parts).run (reading length ('^' :: rest)) =
      (readParts fuel ({ node := .assertion .textStart } :: parts)).run (reading length rest) :=
  rfl

theorem readParts_point (rest : List Char) :
    (readParts (fuel + 1) parts).run (reading length ("\\.".toList ++ rest)) =
      (readParts fuel ({ node := .literal ['.'] } :: parts)).run (reading length rest) :=
  rfl

/-- A group that cannot be referred to is the branches in it. -/
theorem readParts_group
    (h : (readBranches fuel []).run (reading length rest) =
      .ok (body, reading length (')' :: after))) :
    (readParts (fuel + 1) parts).run (reading length ("(?:".toList ++ rest)) =
      (readParts fuel (⟨body.node, body.depth + 1, true⟩ :: parts)).run (reading length after) := by
  have hread : (readParts (fuel + 1) parts).run (reading length ("(?:".toList ++ rest)) = (do
      let body ← readBranches fuel []
      if (← peek?) ≠ some ')' then throw .unclosedGroup
      modify fun s => { s with options := {} }
      advance
      readParts fuel ({ node := body.node, depth := body.depth + 1 } :: parts) :
        ReadM Part).run (reading length rest) := rfl
  rw [hread, StateT.run_bind, h]
  rfl

theorem readBranches_more
    (h : (readParts fuel []).run (reading length rest) =
      .ok (branch, reading length ('|' :: after))) :
    (readBranches (fuel + 1) branches).run (reading length rest) =
      (readBranches fuel (branch :: branches)).run (reading length after) := by
  rw [readBranches, StateT.run_bind, h]
  rfl

theorem readBranches_last
    (h : (readParts fuel []).run (reading length rest) = .ok (branch, reading length after))
    (hafter : after.head? ≠ some '|') :
    (readBranches (fuel + 1) branches).run (reading length rest) =
      .ok (joinParts .ofBranches (branch :: branches).reverse, reading length after) := by
  rw [readBranches, StateT.run_bind, h]
  change (if after.head? = some '|' then _ else _ : ReadM Part).run (reading length after) = _
  rw [if_neg hafter]
  rfl

end Parts

/-! ## Sets -/

theorem ofSet_set {kind : CharKind} (hpoint : kind ≠ .point) (hother : kind ≠ .other) :
    Node.ofSet kind.set = kind.node := by
  cases kind with
  | digit | sign | mark =>
    rw [Node.ofSet, CharKind.set, Text.diff_surrogate (by decide) (by decide)]
    rfl
  | point | other => contradiction

theorem unions_digit : CodeSet.unions [.ofSpans [⟨48, 57⟩]] = CharKind.set .digit := by
  rw [CodeSet.ofSpans_singleton (by decide)]
  exact CodeSet.ofSpans_singleton (by decide)

/-- The characters of a set come latest first. -/
theorem unions_sign :
    CodeSet.unions [.singleton '-'.toNat, .singleton '+'.toNat] = CharKind.set .sign := by
  simp [CodeSet.unions, CodeSet.singleton, CodeSet.ofSpans, List.mergeSort, CodeSet.mergeSorted,
    CharKind.set]

theorem unions_mark :
    CodeSet.unions [.singleton 'E'.toNat, .singleton 'e'.toNat] = CharKind.set .mark :=
  CodeSet.ofSpans_of_sorted (by decide) (by decide)

section Number

variable {fuel : Nat} {parts : List Part} (rest : List Char)

theorem readParts_digit :
    (readParts (fuel + 1) parts).run (reading 54 ("[0-9]".toList ++ rest)) =
      (readParts fuel (⟨CharKind.digit.node, 1, true⟩ :: parts)).run (reading 54 rest) := by
  rw [← ofSet_set (by decide) (by decide), ← unions_digit]
  rfl

theorem readParts_sign :
    (readParts (fuel + 1) parts).run (reading 54 ("[+-]".toList ++ rest)) =
      (readParts fuel (⟨CharKind.sign.node, 2, true⟩ :: parts)).run (reading 54 rest) := by
  rw [← ofSet_set (by decide) (by decide), ← unions_sign]
  rfl

theorem readParts_mark :
    (readParts (fuel + 1) parts).run (reading 54 ("[eE]".toList ++ rest)) =
      (readParts fuel (⟨CharKind.mark.node, 2, true⟩ :: parts)).run (reading 54 rest) := by
  rw [← ofSet_set (by decide) (by decide), ← unions_mark]
  rfl

/-! ## The pattern of a number -/

theorem readParts_whole :
    (readParts (fuel + 7) []).run (reading 54 ("[0-9]+\\.?[0-9]*|".toList ++ rest)) =
      .ok (⟨wholeNode, 3, true⟩, reading 54 ('|' :: rest)) := by
  refine (readParts_digit ("+\\.?[0-9]*|".toList ++ rest)).trans ?_
  refine (readParts_repetition rfl ("\\.?[0-9]*|".toList ++ rest) (by simp)).trans ?_
  refine (readParts_point ("?[0-9]*|".toList ++ rest)).trans ?_
  refine (readParts_repetition rfl ("[0-9]*|".toList ++ rest) (by simp)).trans ?_
  refine (readParts_digit ("*|".toList ++ rest)).trans ?_
  refine (readParts_repetition rfl ("|".toList ++ rest) (by simp)).trans ?_
  rfl

theorem readParts_fraction :
    (readParts (fuel + 4) []).run (reading 54 ("\\.[0-9]+)".toList ++ rest)) =
      .ok (⟨fractionNode, 3, true⟩, reading 54 (')' :: rest)) := by
  refine (readParts_point ("[0-9]+)".toList ++ rest)).trans ?_
  refine (readParts_digit ("+)".toList ++ rest)).trans ?_
  refine (readParts_repetition rfl (")".toList ++ rest) (by simp)).trans ?_
  rfl

theorem readParts_exponent :
    (readParts (fuel + 6) []).run (reading 54 ("[eE][+-]?[0-9]+)".toList ++ rest)) =
      .ok (⟨exponentNode, 4, true⟩, reading 54 (')' :: rest)) := by
  refine (readParts_mark ("[+-]?[0-9]+)".toList ++ rest)).trans ?_
  refine (readParts_sign ("?[0-9]+)".toList ++ rest)).trans ?_
  refine (readParts_repetition rfl ("[0-9]+)".toList ++ rest) (by simp)).trans ?_
  refine (readParts_digit ("+)".toList ++ rest)).trans ?_
  refine (readParts_repetition rfl (")".toList ++ rest) (by simp)).trans ?_
  rfl

theorem readBranches_mantissa :
    (readBranches (fuel + 8) []).run
        (reading 54 ("[0-9]+\\.?[0-9]*|\\.[0-9]+)".toList ++ rest)) =
      .ok (⟨.choice wholeNode fractionNode, 4, true⟩, reading 54 (')' :: rest)) := by
  refine (readBranches_more (readParts_whole ("\\.[0-9]+)".toList ++ rest))).trans ?_
  refine (readBranches_last (readParts_fraction rest) (by simp)).trans ?_
  rfl

theorem readBranches_exponent :
    (readBranches (fuel + 7) []).run (reading 54 ("[eE][+-]?[0-9]+)".toList ++ rest)) =
      .ok (⟨exponentNode, 4, true⟩, reading 54 (')' :: rest)) :=
  readBranches_last (readParts_exponent rest) (by simp)

end Number

/-- The pattern of a number as text. -/
def numberText : String := "^[+-]?(?:[0-9]+\\.?[0-9]*|\\.[0-9]+)(?:[eE][+-]?[0-9]+)?"

theorem readParts_number (fuel : Nat) :
    (readParts (fuel + 13) []).run (reading 54 numberText.toList) =
      .ok (⟨number.body, 7, true⟩, reading 54 []) := by
  let exponent := "(?:[eE][+-]?[0-9]+)?".toList
  let mantissa := "(?:[0-9]+\\.?[0-9]*|\\.[0-9]+)".toList ++ exponent
  refine (readParts_textStart ("[+-]?".toList ++ mantissa)).trans ?_
  refine (readParts_sign ('?' :: mantissa)).trans ?_
  refine (readParts_repetition rfl mantissa (by simp [mantissa])).trans ?_
  refine (readParts_group (readBranches_mantissa exponent)).trans ?_
  refine (readParts_group (readBranches_exponent "?".toList)).trans ?_
  refine (readParts_repetition rfl [] (by simp)).trans ?_
  rfl

theorem readPattern_number :
    readPattern.run (reading 54 numberText.toList) =
      .ok (⟨number.body, 7, true⟩, reading 54 []) := by
  have hfuel : 3 * (reading 54 numberText.toList).length + 3 = 164 + 1 := rfl
  rw [readPattern, StateT.run_bind, StateT.run_get, pure_bind, StateT.run_bind, hfuel,
    readBranches_last (readParts_number 151) (by simp)]
  rfl

theorem fits_number : number.body.fits = true := by decide +kernel

/-- The text of the pattern of a number is a pattern, and that one. -/
theorem parse_numberText : Pattern.parse numberText = .ok number := by
  have hlength : numberText.length = 54 := by decide +kernel
  have hread : readPattern.run { length := 54, ahead := numberText.toList } = _ :=
    readPattern_number
  have hdepth : ¬ maxDepth < 7 := by decide
  rw [parse, hlength, hread]
  simp only [bind, Except.bind, hdepth, fits_number, if_false, Bool.not_true, Bool.false_eq_true]
  rfl

end Spreadsheet.Pattern
