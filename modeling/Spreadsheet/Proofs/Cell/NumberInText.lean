import Spreadsheet.Cell.Value
import Spreadsheet.Proofs.Numeric.Leading
import Spreadsheet.Proofs.Pattern.Reading

/-!
# The number in a text

A text counts as the number that it starts with, blanks before it skipped. What the scanner of
numerals leaves of the text is what the longest match of `Pattern.number` leaves
(`Pattern.Stage.after?_start`): from each stage of a match on, a part of the scanner goes as far. So
the number in a text is the one of the longest start that is a number, and of the first match of the
pattern, which is always read as a number (`Value.numberInText?_longest`).
-/

namespace Spreadsheet

open Numeric (IsNumber WritesNumber Numeral isDigit splitSign scanFraction scanExponent readNumber?)

namespace Pattern

variable {c : Char} {text start : List Char} {stage behind : Stage}

/-! ## Kinds of characters -/

namespace CharKind

theorem isDigit_eq (c : Char) : isDigit c = decide (of c = .digit) := by
  grind [of]

theorem of_eq_sign_iff : of c = .sign ↔ c = '+' ∨ c = '-' := by
  refine ⟨fun h => by grind [of], ?_⟩
  rintro (rfl | rfl) <;> rfl

theorem of_eq_point_iff : of c = .point ↔ c = '.' := by
  refine ⟨fun h => by grind [of], ?_⟩
  rintro rfl
  rfl

theorem of_eq_mark_iff : of c = .mark ↔ c = 'e' ∨ c = 'E' := by
  refine ⟨fun h => by grind [of, Numeric.isMark_iff], ?_⟩
  rintro (rfl | rfl) <;> rfl

theorem of_ne_digit_of_mem_head? (hc : c ∈ (text.dropWhile isDigit).head?) : of c ≠ .digit := by
  have h := List.head?_dropWhile_not isDigit text
  rw [hc] at h
  exact fun hk => by simp [isDigit_eq, hk] at h

end CharKind

/-! ## Stages and the scanner -/

namespace Stage

theorem after?_cons (stage : Stage) (c : Char) (rest : List Char) : stage.after? (c :: rest) =
    ((stage.next (.of c)).after? rest <|> if stage.accepts then some (c :: rest) else none) := by
  rw [after?]

theorem after?_ne_none (h : stage.accepts) (text : List Char) : stage.after? text ≠ none := by
  cases text <;> simp [after?, h]

/-- A stage that digits do not end goes past all of them. -/
theorem after?_dropWhile (haccepts : stage.accepts) (hnext : stage.next .digit = stage)
    (text : List Char) : stage.after? text = stage.after? (text.dropWhile isDigit) := by
  induction text with
  | nil => rfl
  | cons c rest ih =>
    by_cases hk : CharKind.of c = .digit
    · obtain ⟨after, hafter⟩ := Option.ne_none_iff_exists'.mp (after?_ne_none haccepts rest)
      rw [List.dropWhile_cons, CharKind.isDigit_eq, if_pos (decide_eq_true hk), ← ih, after?_cons,
        hk, hnext, hafter]
      rfl
    · rw [List.dropWhile_cons, CharKind.isDigit_eq, if_neg (by simpa using hk)]

theorem after?_exponent (text : List Char) :
    Stage.exponent.after? text = some (text.dropWhile isDigit) := by
  induction text with
  | nil => rfl
  | cons c rest ih =>
    rw [after?_cons, List.dropWhile_cons, CharKind.isDigit_eq]
    cases CharKind.of c with
    | digit => simp [next, ih]
    | _ => simp [next, after?_over, accepts]

theorem after?_markSigned (text : List Char) : Stage.markSigned.after? text =
    if text.takeWhile isDigit = [] then none else some (text.dropWhile isDigit) := by
  cases text with
  | nil => rfl
  | cons c rest =>
    rw [after?_cons, List.takeWhile_cons, List.dropWhile_cons, CharKind.isDigit_eq]
    cases CharKind.of c with
    | digit => simp [next, after?_exponent]
    | _ => simp [next, after?_over, accepts]

/-- A stage that differs from another one only in that a sign may come first. -/
theorem after?_splitSign (haccepts : stage.accepts = false) (hbehind : behind.accepts = false)
    (hsign : stage.next .sign = behind)
    (hnext : ∀ kind, kind ≠ .sign → stage.next kind = behind.next kind) (text : List Char) :
    stage.after? text = behind.after? (splitSign text).2 := by
  cases text with
  | nil => simp [splitSign, after?, haccepts, hbehind]
  | cons c rest =>
    by_cases hk : CharKind.of c = .sign
    · have hs : (splitSign (c :: rest)).2 = rest := by
        rcases CharKind.of_eq_sign_iff.mp hk with rfl | rfl <;> rfl
      rw [hs, after?_cons, hk, hsign, haccepts]
      simp
    · have hc : c ≠ '+' ∧ c ≠ '-' := by
        rwa [CharKind.of_eq_sign_iff, not_or] at hk
      rw [Numeric.splitSign_of_ne hc, after?_cons, after?_cons, hnext _ hk, haccepts, hbehind]

theorem after?_mark (text : List Char) :
    Stage.mark.after? text = Stage.markSigned.after? (splitSign text).2 := by
  refine after?_splitSign rfl rfl rfl (fun kind hkind => ?_) text
  cases kind <;> first | rfl | contradiction

/-- Where nothing but an exponent can follow, it is taken if it is complete. -/
theorem after?_eq_scanExponent (haccepts : stage.accepts) (hmark : stage.next .mark = .mark)
    (hover : ∀ c ∈ text.head?, CharKind.of c ≠ .mark → stage.next (.of c) = .over) :
    stage.after? text = some (scanExponent text).2 := by
  cases text with
  | nil => rw [after?, if_pos haccepts, scanExponent]
  | cons c rest =>
    rw [after?_cons, if_pos haccepts, scanExponent]
    by_cases hk : CharKind.of c = .mark
    · rw [hk, hmark, after?_mark, after?_markSigned]
      by_cases hdigits : (splitSign rest).2.takeWhile isDigit = [] <;>
        simp [CharKind.of_eq_mark_iff.mp hk, hdigits, -List.takeWhile_eq_nil_iff]
    · rw [hover c rfl hk, after?_over]
      simp [CharKind.of_eq_mark_iff.not.mp hk]

/-- Digits behind a point, and the exponent behind them. -/
theorem after?_of_digits (haccepts : stage.accepts) (hdigit : stage.next .digit = stage)
    (hmark : stage.next .mark = .mark)
    (hover : ∀ kind, kind ≠ .digit → kind ≠ .mark → stage.next kind = .over) (text : List Char) :
    stage.after? text = some (scanExponent (text.dropWhile isDigit)).2 := by
  rw [after?_dropWhile haccepts hdigit]
  exact after?_eq_scanExponent haccepts hmark fun c hc =>
    hover (.of c) (CharKind.of_ne_digit_of_mem_head? hc)

theorem after?_fraction (text : List Char) :
    Stage.fraction.after? text = some (scanExponent (text.dropWhile isDigit)).2 := by
  refine after?_of_digits rfl rfl rfl (fun kind hdigit hmark => ?_) text
  cases kind <;> first | rfl | contradiction

theorem after?_decimals (text : List Char) :
    Stage.decimals.after? text = some (scanExponent (text.dropWhile isDigit)).2 := by
  refine after?_of_digits rfl rfl rfl (fun kind hdigit hmark => ?_) text
  cases kind <;> first | rfl | contradiction

theorem after?_point (text : List Char) : Stage.point.after? text =
    if text.takeWhile isDigit = [] then none
    else some (scanExponent (text.dropWhile isDigit)).2 := by
  cases text with
  | nil => rfl
  | cons c rest =>
    rw [after?_cons, List.takeWhile_cons, List.dropWhile_cons, CharKind.isDigit_eq]
    cases CharKind.of c with
    | digit => simp [next, after?_decimals]
    | _ => simp [next, after?_over, accepts]

theorem after?_whole (text : List Char) : Stage.whole.after? text =
    some (scanExponent (scanFraction (text.dropWhile isDigit)).2).2 := by
  rw [after?_dropWhile rfl rfl]
  by_cases hpoint : (text.dropWhile isDigit).head? = some '.'
  · obtain ⟨rest, hrest⟩ := List.head?_eq_some_iff.mp hpoint
    rw [hrest, after?_cons, CharKind.of_eq_point_iff.mpr rfl]
    simp [next, accepts, after?_fraction, scanFraction]
  · have hstop : StopsAt (· = '.') (text.dropWhile isDigit) :=
      fun c hc => decide_eq_false fun h => hpoint (h ▸ hc)
    rw [Numeric.scanFraction_of_stopsAt hstop]
    refine after?_eq_scanExponent rfl rfl fun c hc hmark => ?_
    have hdigit := CharKind.of_ne_digit_of_mem_head? hc
    cases hk : CharKind.of c with
    | point => exact absurd (CharKind.of_eq_point_iff.mp hk ▸ hc) hpoint
    | digit | mark => contradiction
    | sign | other => rfl

theorem after?_signed (text : List Char) :
    Stage.signed.after? text = (Numeral.scan? text).map Prod.snd := by
  cases text with
  | nil => rfl
  | cons c rest =>
    rw [after?_cons, Numeral.scan?, List.takeWhile_cons, List.dropWhile_cons, CharKind.isDigit_eq]
    cases hk : CharKind.of c with
    | digit => simp [next, after?_whole, accepts]
    | point =>
      obtain rfl := CharKind.of_eq_point_iff.mp hk
      by_cases hdigits : rest.takeWhile isDigit = [] <;>
        simp [next, after?_point, accepts, scanFraction, hdigits, -List.takeWhile_eq_nil_iff]
    | _ =>
      have hc : c ≠ '.' := CharKind.of_eq_point_iff.not.mp (by rw [hk]; decide)
      have hstop : StopsAt (· = '.') (c :: rest) := stopsAt_cons (by simpa using hc) rest
      simp [next, after?_over, accepts, Numeric.scanFraction_of_stopsAt hstop]

/-- The longest match leaves what the scanner leaves behind a sign. -/
theorem after?_start (text : List Char) :
    Stage.start.after? text = (Numeral.scan? (splitSign text).2).map Prod.snd := by
  rw [← after?_signed]
  refine after?_splitSign rfl rfl rfl (fun kind hkind => ?_) text
  cases kind <;> first | rfl | contradiction

end Stage

/-- The first match of the pattern of a number is the longest start of the text that is a number. -/
theorem firstMatch?_number_eq_some_iff :
    firstMatch? number text = some start ↔ IsLongestStart IsNumber text start := by
  rw [firstMatch?_number, Stage.after?_start, Option.map_map]
  constructor
  · intro h
    obtain ⟨⟨n, rest⟩, hn, rfl⟩ := Option.map_eq_some_iff.mp h
    obtain ⟨start, rfl, hstart, -⟩ := Numeric.exists_of_scan? hn
    simpa using hstart
  · intro h
    obtain ⟨x, hx⟩ := h.ofKind
    obtain ⟨rest, rfl⟩ := h.isStart
    obtain ⟨n, after, hn, -⟩ := hx.exists_scan? rest
    obtain ⟨other, htext, hother, -⟩ := Numeric.exists_of_scan? hn
    obtain rfl := h.unique hother
    rw [hn, htext]
    simp

end Pattern

/-! ## Texts as numbers -/

namespace Value

variable {start : List Char}

theorem writesNumber_iff_readNumber? {x : Float} (h : IsNumber start) :
    WritesNumber start x ↔ readNumber? start = some x := by
  obtain ⟨y, hy⟩ := h
  refine ⟨Numeric.readNumber?_of_writesNumber, fun hx => ?_⟩
  rw [Numeric.readNumber?_of_writesNumber hy, Option.some.injEq] at hx
  exact hx ▸ hy

theorem numberInText?_eq_some_iff {s : String} {x : Float} : numberInText? s = some x ↔
    ∃ start, IsLongestStart IsNumber (Text.trimStart s.toList) start ∧
      readNumber? start = some x := by
  rw [numberInText?, Numeric.leadingNumber?_eq_some_iff]
  exact exists_congr fun start => and_congr_right fun h => writesNumber_iff_readNumber? h.ofKind

/-- The number in a text, blanks in front skipped. There is none if and only if no start of the text
is a number; otherwise it is what the longest start that is one is read as. The pattern of a number
is a pattern, its first match is that start, and no match fails to be read. -/
theorem numberInText?_longest (s : String) :
    let text := Text.trimStart s.toList
    (numberInText? s = none ↔ ∀ start, start <+: text → ¬ IsNumber start) ∧
      (∀ x, numberInText? s = some x ↔
        ∃ start, IsLongestStart IsNumber text start ∧ readNumber? start = some x) ∧
      ∃ pattern,
        Pattern.parse "^[+-]?(?:[0-9]+\\.?[0-9]*|\\.[0-9]+)(?:[eE][+-]?[0-9]+)?" = .ok pattern ∧
        (∀ start, Pattern.firstMatch? pattern text = some start ↔
          IsLongestStart IsNumber text start) ∧
        (∀ start, Pattern.firstMatch? pattern text = some start → (readNumber? start).isSome) ∧
        numberInText? s = (Pattern.firstMatch? pattern text).bind readNumber? := by
  refine ⟨Numeric.leadingNumber?_eq_none_iff, fun x => numberInText?_eq_some_iff,
    Pattern.number, Pattern.parse_numberText, fun start => Pattern.firstMatch?_number_eq_some_iff,
    fun start h => ?_, ?_⟩
  · obtain ⟨x, hx⟩ := (Pattern.firstMatch?_number_eq_some_iff.mp h).ofKind
    rw [Numeric.readNumber?_of_writesNumber hx, Option.isSome_some]
  · ext x
    rw [numberInText?_eq_some_iff, Option.bind_eq_some_iff]
    exact exists_congr fun start => and_congr_left' Pattern.firstMatch?_number_eq_some_iff.symm

/-- A mark without digits behind it is left to what follows the number. A point alone is none. -/
theorem numberInText?_longest_of_incomplete :
    numberInText? "  -2.5e+kg" = some (-2.5) ∧
      (∃ start, IsLongestStart IsNumber "-2.5e+kg".toList start ∧
        readNumber? start = some (-2.5)) ∧
      ∀ start, start <+: "-.e5".toList → ¬ IsNumber start := by
  have hread : numberInText? "  -2.5e+kg" = some (-2.5) := by decide +kernel
  have htrimmed : Text.trimStart "  -2.5e+kg".toList = "-2.5e+kg".toList := by decide +kernel
  have hnone : numberInText? "-.e5" = none := by decide +kernel
  obtain ⟨-, hnumber, -⟩ := numberInText?_longest "  -2.5e+kg"
  obtain ⟨hno, -⟩ := numberInText?_longest "-.e5"
  rw [htrimmed] at hnumber
  exact ⟨hread, (hnumber _).mp hread, hno.mp hnone⟩

end Value

end Spreadsheet
