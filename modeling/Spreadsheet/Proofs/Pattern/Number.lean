import Mathlib.Tactic.IntervalCases
import Spreadsheet.Proofs.Numeric.Digits
import Spreadsheet.Proofs.Numeric.Spelling
import Spreadsheet.Proofs.Pattern.Front
import Spreadsheet.Proofs.Text.CodeSet

/-!
# The pattern of a number

The pattern `^[+-]?(?:[0-9]+\.?[0-9]*|\.[0-9]+)(?:[eE][+-]?[0-9]+)?` matches the number that a text
starts with. A search prefers earlier branches and more rounds, not longer matches. For this pattern
the threads at a place are those of one of ten stages (`Stage.threads`), and the kind of the next
character decides the stage behind it (`Stage.next`). A complete thread is the last one of its
stage, so whatever else goes on is preferred to it, and the search finds the longest match
(`searchFrom_number`).
-/

namespace Spreadsheet.Pattern

open Numeric (isDigit)
open Text (CodeSet)

/-! ## The characters -/

/-- The characters that the pattern tells apart. -/
inductive CharKind where
  | digit
  | sign
  | point
  | mark
  | other
deriving DecidableEq

namespace CharKind

/-- The kind of a character. -/
def of (c : Char) : CharKind :=
  if isDigit c then .digit
  else if c = '+' ∨ c = '-' then .sign
  else if c = '.' then .point
  else if Numeric.isMark c then .mark
  else .other

/-- The characters of a kind that the pattern names. -/
def set : CharKind → CodeSet
  | .digit => ⟨#[⟨48, 57⟩]⟩
  | .sign => ⟨#[⟨43, 43⟩, ⟨45, 45⟩]⟩
  | .point => .singleton 46
  | .mark => ⟨#[⟨69, 69⟩, ⟨101, 101⟩]⟩
  | .other => .empty

end CharKind

/-! ## The pattern and its program -/

/-- A repetition without an upper bound, of as many rounds as possible. -/
def Node.atLeast (body : Node) (least : Nat) : Node := .repetition body least none true

/-- At most one round, which is tried first. -/
def Node.maybe (body : Node) : Node := .repetition body 0 (some 1) true

/-- A character of a kind. -/
def CharKind.node (kind : CharKind) : Node := .oneOf kind.set

/-- Digits, and perhaps a point with or without digits behind it. -/
def wholeNode : Node :=
  sequenceOf [CharKind.digit.node.atLeast 1, (Node.literal ['.']).maybe,
    CharKind.digit.node.atLeast 0]

/-- A point and digits. -/
def fractionNode : Node := sequenceOf [.literal ['.'], CharKind.digit.node.atLeast 1]

/-- The mark of an exponent, perhaps a sign, and digits. -/
def exponentNode : Node :=
  sequenceOf [CharKind.mark.node, CharKind.sign.node.maybe, CharKind.digit.node.atLeast 1]

/-- The pattern `^[+-]?(?:[0-9]+\.?[0-9]*|\.[0-9]+)(?:[eE][+-]?[0-9]+)?`. -/
def number : Pattern where
  body := sequenceOf [.assertion .textStart, CharKind.sign.node.maybe,
    .choice wholeNode fractionNode, exponentNode.maybe]
  groups := 0
  names := []

/-- The program of the pattern, which starts at its last step. The digits of an exponent are at step
3, those in front of a point at 13, and those behind it at 9 or, if none are in front, at 15. -/
def numberProgram : Program where
  steps := #[.done, .mark 1 0, .branch 3 1, .take (CharKind.set .digit) 2,
    .take (CharKind.set .sign) 3, .branch 4 3, .take (CharKind.set .mark) 5, .branch 6 1,
    .branch 9 7, .take (CharKind.set .digit) 8, .take (CharKind.set .point) 8, .branch 10 8,
    .branch 13 11, .take (CharKind.set .digit) 12, .branch 15 7, .take (CharKind.set .digit) 14,
    .take (CharKind.set .point) 15, .branch 13 16, .take (CharKind.set .sign) 17, .branch 18 17,
    .check .textStart 19, .mark 0 20]
  start := 21
  slots := 2

theorem program_number : program number = numberProgram := rfl

/-- The kind of character that a step of the program waits for. -/
def wanted? : Nat → Option CharKind
  | 3 | 9 | 13 | 15 => some .digit
  | 4 | 18 => some .sign
  | 10 | 16 => some .point
  | 6 => some .mark
  | _ => none

/-- Whether a step of the program takes the characters of a kind. -/
def CharKind.takes (kind : CharKind) (step : Nat) : Bool := wanted? step = some kind

theorem contains_set {kind : CharKind} (hkind : kind ≠ .other) (c : Char) :
    kind.set.contains c.toNat = decide (CharKind.of c = kind) := by
  simp only [CharKind.of, Numeric.isDigit_iff, Numeric.isMark_iff, ← Char.toNat_inj]
  generalize c.toNat = code
  cases kind with
  | digit | point =>
    rw [CharKind.set]
    grind [CodeSet.contains_span, CodeSet.singleton]
  | sign | mark =>
    rw [CharKind.set, CodeSet.contains_codes (by decide)]
    grind
  | other => exact absurd rfl hkind

/-- A step takes a character if and only if it waits for its kind. -/
theorem takes_of {step after : Nat} {set : CodeSet}
    (h : numberProgram.steps[step]? = some (.take set after)) (c : Char) :
    set.contains c.toNat = (CharKind.of c).takes step := by
  have hstep : step < 22 := (Array.getElem?_eq_some_iff.mp h).1
  have hwanted : ∃ kind, kind ≠ .other ∧ wanted? step = some kind ∧ kind.set = set := by
    interval_cases step <;> cases h <;> exact ⟨_, by decide, rfl, rfl⟩
  obtain ⟨kind, hkind, hstep, rfl⟩ := hwanted
  simp [contains_set hkind, CharKind.takes, hstep, eq_comm]

/-! ## The stages of a match -/

/-- How far a match has come: nowhere, behind a sign, among digits without a point (`whole`), behind
a point with digits in front of it (`fraction`) or with none (`point`, and `decimals` once digits
follow), behind the mark of an exponent, its sign or its digits, or past a character at which the
match does not go on. -/
inductive Stage where
  | start
  | signed
  | whole
  | fraction
  | point
  | decimals
  | mark
  | markSigned
  | exponent
  | over
deriving DecidableEq

namespace Stage

/-- The stage behind a character of a kind. -/
def next : Stage → CharKind → Stage
  | .start, .sign => .signed
  | .start, .digit | .signed, .digit | .whole, .digit => .whole
  | .start, .point | .signed, .point => .point
  | .whole, .point => .fraction
  | .fraction, .digit => .fraction
  | .point, .digit | .decimals, .digit => .decimals
  | .whole, .mark | .fraction, .mark | .decimals, .mark => .mark
  | .mark, .sign => .markSigned
  | .mark, .digit | .markSigned, .digit | .exponent, .digit => .exponent
  | _, _ => .over

/-- Whether a match may end at the stage. -/
def accepts : Stage → Bool
  | .whole | .fraction | .decimals | .exponent => true
  | _ => false

/-- The steps that wait for a character at the stage, in order of preference. -/
def waiting : Stage → List Nat
  | .start => [18, 13, 16]
  | .signed => [13, 16]
  | .whole => [13, 10, 9, 6]
  | .fraction => [9, 6]
  | .point => [15]
  | .decimals => [15, 6]
  | .mark => [4, 3]
  | .markSigned => [3]
  | .exponent => [3]
  | .over => []

/-- The threads at the stage. One that is complete comes behind all that go on. -/
def threads (stage : Stage) (index : Nat) : List Thread :=
  stage.waiting.map (⟨·, #[some 0, none]⟩) ++
    if stage.accepts then [⟨0, #[some 0, some index]⟩] else []

/-- The match that ends at the stage, if one may. -/
def completed? (stage : Stage) (index : Nat) : Option Slots :=
  if stage.accepts then some #[some 0, some index] else none

variable {index : Nat}

theorem completed_threads (stage : Stage) (index : Nat) :
    completed numberProgram (stage.threads index) = stage.completed? index := by
  cases stage <;> rfl

theorem eq_over_of_threads_eq_nil (stage : Stage) (h : stage.threads index = []) :
    stage = .over := by
  cases stage <;> first | rfl | cases h

/-- A character moves the threads of a stage to those of the next one, as its kind says. -/
theorem advance_threads (stage : Stage) (kind : CharKind) (index : Nat) (here : Place) :
    (Front.advance numberProgram kind.takes here (stage.threads index) {}).1.waiting =
        (stage.next kind).threads here.index ∧
      (Front.advance numberProgram kind.takes here (stage.threads index) {}).2 =
        stage.completed? index := by
  cases stage <;> cases kind <;> exact ⟨rfl, rfl⟩

end Stage

/-! ## The search -/

/-- Whether the threads at a place are those of a stage. -/
def AtStage (stage : Stage) (index : Nat) (threads : Threads) : Prop :=
  ∃ front, Front.Tracks numberProgram index threads front ∧ front.waiting = stage.threads index

variable {stage : Stage} {index : Nat} {threads : Threads} {here : Place}
  {found : Option Slots}

theorem AtStage.waiting (h : AtStage stage index threads) :
    threads.waiting.toList = stage.threads index := by
  obtain ⟨front, htracks, hwaiting⟩ := h
  rw [htracks.waiting, hwaiting]

theorem atStage_start (after : Option Char) :
    AtStage .start 0
      (entered numberProgram ⟨0, none, after⟩ none { reached := Array.replicate 22 0 }) := by
  rw [entered, if_pos Option.isNone_none, Threads.start]
  exact ⟨_, (Front.Tracks.unreached numberProgram).follow ⟨0, none, after⟩, rfl⟩

/-- A match starts nowhere but at the start of the text. -/
theorem follow_start (front : Front) (slots : Slots) (hbefore : here.before.isSome) :
    (front.follow numberProgram here 46 [⟨21, slots⟩]).waiting = front.waiting := by
  have hholds : Assertion.textStart.holds here = false := by
    obtain ⟨c, hc⟩ := Option.isSome_iff_exists.mp hbefore
    rw [Assertion.holds, hc, Option.isNone_some]
  -- Its two steps wait for nothing: a mark, and a check that fails.
  rw [Front.follow]
  split
  · rfl
  · change (Front.follow numberProgram here 45 [_] _).waiting = _
    rw [Front.follow]
    split
    · rfl
    · change (Front.follow numberProgram here 44 (if Assertion.textStart.holds here then _ else _)
        _).waiting = _
      rw [hholds]
      rfl

theorem AtStage.entered (h : AtStage stage index threads) (before : Char) (after : Option Char)
    (found : Option Slots) :
    AtStage stage index (entered numberProgram ⟨index, some before, after⟩ found threads) := by
  rw [Pattern.entered]
  split
  · obtain ⟨front, htracks, hwaiting⟩ := h
    exact ⟨_, htracks.follow ⟨index, some before, after⟩,
      (follow_start front _ rfl).trans hwaiting⟩
  · exact h

theorem AtStage.advance (h : AtStage stage index threads) (c : Char) (after : Option Char) :
    let moved := advanceThreads numberProgram c ⟨index + 1, some c, after⟩ threads.waiting.toList
      { reached := threads.reached }
    AtStage (stage.next (.of c)) (index + 1) moved.1 ∧ moved.2 = stage.completed? index := by
  have hwaiting := h.waiting
  obtain ⟨front, htracks, -⟩ := h
  have hmoved := htracks.moved.advance ⟨index + 1, some c, after⟩
    (fun _ _ _ hstep => takes_of hstep c) threads.waiting.toList
  have hstage := stage.advance_threads (.of c) index ⟨index + 1, some c, after⟩
  rw [← hwaiting] at hstage
  exact ⟨⟨_, hmoved.1, hstage.1⟩, hmoved.2.trans hstage.2⟩

namespace Stage

/-- What follows the longest match from the stage on, if there is one. -/
def after? : Stage → List Char → Option (List Char)
  | stage, [] => if stage.accepts then some [] else none
  | stage, c :: rest =>
    (stage.next (.of c)).after? rest <|> if stage.accepts then some (c :: rest) else none

theorem after?_over (text : List Char) : Stage.over.after? text = none := by
  induction text with
  | nil => rfl
  | cons c rest ih =>
    rw [after?]
    cases CharKind.of c <;> simpa [next, accepts]

end Stage

/-- The slots of a match that ends in front of what is given. -/
def endingAt (last : Nat) (after : List Char) : Slots := #[some 0, some (last - after.length)]

/-- A search finds the longest match from its stage on, or else what it has found before. -/
theorem searchFrom_number {before : Option Char} {text : List Char}
    (h : AtStage stage index (entered numberProgram ⟨index, before, text.head?⟩ found threads)) :
    searchFrom numberProgram index before found threads text =
      ((stage.after? text).map (endingAt (index + text.length)) <|> found) := by
  induction text generalizing stage index before found threads with
  | nil =>
    rw [List.head?_nil] at h
    rw [searchFrom_nil, h.waiting, stage.completed_threads, Stage.completed?, Stage.after?]
    split <;> rfl
  | cons c rest ih =>
    rw [List.head?_cons] at h
    rw [searchFrom_cons]
    generalize entered numberProgram ⟨index, before, some c⟩ found threads = threads at h ⊢
    -- A match that ends here is better than any found before, and worse than one found later on.
    obtain ⟨hmoved, hbetter⟩ := h.advance c rest.head?
    have hlater := ih (hmoved.entered c rest.head? (stage.completed? index <|> found))
    simp only [hbetter, hlater]
    have hlength : index + 1 + rest.length = index + (c :: rest).length := by
      rw [List.length_cons]
      omega
    rw [hlength]
    split
    · -- Without threads nothing can follow, so the search may stop.
      rename_i hempty
      rw [Bool.and_eq_true, Array.isEmpty_iff, ← Array.toList_eq_nil_iff, h.waiting] at hempty
      rw [stage.eq_over_of_threads_eq_nil hempty.1, Stage.after?_over]
      rfl
    · rw [Stage.after?, Stage.completed?]
      cases (stage.next (.of c)).after? rest <;> cases stage.accepts <;> simp [endingAt]

/-- The first match of the pattern is what the longest match takes. -/
theorem firstMatch?_number (text : List Char) : firstMatch? number text =
    (Stage.start.after? text).map fun after => text.take (text.length - after.length) := by
  have hsearch : search numberProgram 0 none text = _ :=
    searchFrom_number (atStage_start text.head?)
  rw [firstMatch?, program_number, hsearch]
  simp [Function.comp_def, endingAt, groupText, groupBounds]

end Spreadsheet.Pattern
