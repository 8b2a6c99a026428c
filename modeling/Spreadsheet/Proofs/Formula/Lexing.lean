import Mathlib.Data.Bool.AllAny
import Spreadsheet.Proofs.Formula.Grammar
import Spreadsheet.Proofs.Numeric.Signed

/-!
# Tokens of joined texts

A parenthesis ends whatever number stands before it, so the tokens of a text with a parenthesis in
it are those of the text before and those of the rest (`tokens?_append`). The text of a finite
number is a number token, perhaps behind a sign (`tokens?_of_readNumber?`).
-/

namespace Spreadsheet

open Numeric

namespace Formula

/-- Whether a character ends a number text, whatever stands before it. -/
structure EndsNumber (c : Char) : Prop where
  notNumberChar : isNumberChar c = false
  notSign : c ≠ '+' ∧ c ≠ '-'
  notMark : c ≠ 'e' ∧ c ≠ 'E'

theorem endsNumber_opening : EndsNumber '(' := ⟨by decide, by decide, by decide⟩

theorem endsNumber_closing : EndsNumber ')' := ⟨by decide, by decide, by decide⟩

variable {c : Char} {before after text : List Char}

theorem EndsNumber.notDigit (h : EndsNumber c) : isDigit c = false := by
  have hn := h.notNumberChar
  unfold isNumberChar at hn
  exact (Bool.or_eq_false_iff.mp hn).1

theorem splitSign_append (h : EndsNumber c) (before after : List Char) :
    splitSign (before ++ c :: after) =
      ((splitSign before).1, (splitSign before).2 ++ c :: after) := by
  cases before with
  | nil => exact splitSign_of_ne h.notSign after
  | cons b before =>
    by_cases hm : b = '-'
    · subst hm
      rfl
    · by_cases hp : b = '+'
      · subst hp
        rfl
      · rw [List.cons_append, splitSign_of_ne ⟨hp, hm⟩, splitSign_of_ne ⟨hp, hm⟩, List.cons_append]

theorem scanExponent_append (h : EndsNumber c) (before after : List Char) :
    scanExponent (before ++ c :: after) =
      ((scanExponent before).1, (scanExponent before).2 ++ c :: after) := by
  cases before with
  | nil =>
    have hm : ¬ (c = 'e' ∨ c = 'E') := not_or.mpr h.notMark
    simp [scanExponent, hm]
  | cons b before =>
    simp only [List.cons_append, scanExponent, splitSign_append h,
      takeWhile_append_cons h.notDigit, dropWhile_append_cons h.notDigit]
    split <;> rfl

theorem splitNumber_append (h : EndsNumber c) (before after : List Char) :
    splitNumber (before ++ c :: after) =
      ((splitNumber before).1, (splitNumber before).2 ++ c :: after) := by
  have hd := length_dropWhile_le isNumberChar before
  have he := length_scanExponent_le (before.dropWhile isNumberChar)
  simp only [splitNumber, dropWhile_append_cons h.notNumberChar, scanExponent_append h,
    Prod.mk.injEq, and_true]
  rw [List.length_append, List.length_append, Nat.add_sub_add_right, List.take_append_of_le_length]
  exact Nat.sub_le _ _

/-! ## Tokens -/

/-- The characters that only separate tokens. -/
def separators : List Char := [' ', '\t', '\n', '\r']

/-- The characters that are tokens by themselves. -/
def symbols : List Char := ['+', '-', '*', '/', '(', ')']

theorem mem_separators (h : isSeparator c) : c ∈ separators := by
  simpa [isSeparator, separators, or_assoc] using h

theorem mem_symbols {token : Token} (h : Token.ofChar? c = some token) : c ∈ symbols := by
  unfold Token.ofChar? at h
  split at h <;> first | decide | cases h

/-- A kind of characters has no separator if it has none of the four. -/
theorem not_isSeparator {p : Char → Prop} (hp : ∀ c ∈ separators, ¬ p c) (h : p c) :
    isSeparator c = false :=
  Bool.eq_false_iff.mpr fun hs => hp c (mem_separators hs) h

theorem tokens?_token {token : Token} (h : Token.ofChar? c = some token) (after : List Char) :
    tokens? (c :: after) = (tokens? after).map (token :: ·) := by
  have hs : isSeparator c = false :=
    not_isSeparator (p := (· ∈ symbols)) (List.all_iff_forall_prop.mp (by decide)) (mem_symbols h)
  rw [tokens?]
  simp only [hs, h, Bool.false_eq_true, if_false]

/-- The tokens of a text that starts with a number. -/
theorem tokens?_number (h : isNumberChar c) (after : List Char) :
    tokens? (c :: after) =
      (readNumber? (splitNumber (c :: after)).1).bind fun x =>
        (tokens? (splitNumber (c :: after)).2).map (.number x :: ·) := by
  have hs : isSeparator c = false :=
    not_isSeparator (p := (isNumberChar ·)) (List.all_iff_forall_prop.mp (by decide)) h
  have ht : Token.ofChar? c = none := by
    refine Option.eq_none_iff_forall_ne_some.mpr fun token ht => ?_
    have hp : ∀ c ∈ symbols, ¬ isNumberChar c := List.all_iff_forall_prop.mp (by decide)
    exact hp c (mem_symbols ht) h
  rw [tokens?]
  simp only [hs, ht, h, Bool.false_eq_true, if_false, dite_true]
  cases readNumber? (splitNumber (c :: after)).1 <;> rfl

theorem bind_append_cons (token : Token) (before after : Option (List Token)) :
    (before.bind fun tokens => after.map (tokens ++ ·)).map (token :: ·) =
      (before.map (token :: ·)).bind fun tokens => after.map (tokens ++ ·) := by
  cases before <;> cases after <;> rfl

/-- The tokens of a text that goes on with a character that ends numbers. -/
theorem tokens?_append (h : EndsNumber c) (before after : List Char) :
    tokens? (before ++ c :: after) =
      (tokens? before).bind fun tokens => (tokens? (c :: after)).map (tokens ++ ·) := by
  fun_induction tokens? before with
  | case1 => simp
  | case2 b before hs ih =>
    rw [List.cons_append, tokens?]
    simp only [hs, if_true, ih]
  | case3 b before hs token ht ih =>
    rw [List.cons_append, tokens?_token ht, ih, bind_append_cons]
  | case4 b before hs ht hn x hx ih =>
    rw [List.cons_append, tokens?_number hn, ← List.cons_append, splitNumber_append h, hx,
      Option.bind_some, ih, bind_append_cons]
  | case5 b before hs ht hn hx =>
    rw [List.cons_append, tokens?_number hn, ← List.cons_append, splitNumber_append h, hx]
    rfl
  | case6 b before hs ht hn =>
    rw [List.cons_append, tokens?]
    simp only [hs, ht, hn, Bool.false_eq_true, if_false, dite_false, Option.bind_none]

/-! ## The text of a number -/

theorem isNumberChar_of_isDigit (h : isDigit c) : isNumberChar c := by
  simp [isNumberChar, h]

theorem not_isNumberChar_of_isMark (h : isMark c) : isNumberChar c = false := by
  rcases isMark_iff.mp h with rfl | rfl <;> rfl

/-- A numeral is digits and points with an exponent behind them. -/
theorem exists_mantissa {n : Numeral} (h : WritesNumeral text n) :
    ∃ mantissa tail, text = mantissa ++ tail ∧ mantissa ≠ [] ∧ (∀ c ∈ mantissa, isNumberChar c) ∧
      WritesExponent tail n.exponent := by
  cases h with
  | @whole whole tail k hw ht =>
    exact ⟨whole, tail, rfl, hw.ne_nil, fun c hc => isNumberChar_of_isDigit (hw.digits c hc), ht⟩
  | @point whole fraction tail k hw hf _ ht =>
    refine ⟨whole ++ '.' :: fraction, tail, by simp, by simp, fun c hc => ?_, ht⟩
    rcases List.mem_append.mp hc with hc | hc
    · exact isNumberChar_of_isDigit (hw c hc)
    · rcases List.mem_cons.mp hc with rfl | hc
      · rfl
      · exact isNumberChar_of_isDigit (hf c hc)

/-- A numeral is split off whole if no digit, no point and no mark of an exponent follows it. -/
theorem splitNumber_of_writesNumeral {n : Numeral} (h : WritesNumeral text n) {rest : List Char}
    (hn : StopsAt isNumberChar rest) (hm : StopsAt isMark rest) :
    splitNumber (text ++ rest) = (text, rest) := by
  obtain ⟨mantissa, tail, rfl, -, hmantissa, ht⟩ := exists_mantissa h
  have hd : StopsAt isDigit rest := fun c hc => by
    have hc := hn c hc
    unfold isNumberChar at hc
    exact (Bool.or_eq_false_iff.mp hc).1
  have hdrop := dropWhile_append_stopsAt hmantissa
    (ht.stopsAt (fun _ => not_isNumberChar_of_isMark) hn)
  rw [List.append_assoc]
  simp only [splitNumber, hdrop, ht.scan_append hd hm]
  rw [← List.append_assoc, @List.length_append _ (mantissa ++ tail) rest, Nat.add_sub_cancel,
    List.take_left]

/-- A numeral starts with a digit or a point. -/
theorem exists_cons_of_writesNumeral {n : Numeral} (h : WritesNumeral text n) :
    ∃ c after, text = c :: after ∧ isNumberChar c := by
  obtain ⟨c, after, ht, hc⟩ := h.exists_cons
  refine ⟨c, after, ht, ?_⟩
  rcases hc with hd | rfl
  · exact isNumberChar_of_isDigit hd
  · rfl

theorem splitSign_of_isNumberChar (h : isNumberChar c) (after : List Char) :
    splitSign (c :: after) = (false, c :: after) := by
  refine splitSign_of_ne ⟨?_, ?_⟩ after <;> rintro rfl <;> exact absurd h (by decide)

/-- The tokens of a text that starts with a numeral. -/
theorem tokens?_of_writesNumeral {n : Numeral} (h : WritesNumeral text n) {rest : List Char}
    (hn : StopsAt isNumberChar rest) (hm : StopsAt isMark rest) :
    tokens? (text ++ rest) = (tokens? rest).map (.number n.value :: ·) := by
  have hsplit := splitNumber_of_writesNumeral h hn hm
  have hscan := scan?_eq_some_iff.mpr h
  obtain ⟨c, after, rfl, hc⟩ := exists_cons_of_writesNumeral h
  have hr : readNumber? (c :: after) = some n.value := by
    simp only [readNumber?, splitSign_of_isNumberChar hc, hscan, withSign, Bool.false_eq_true,
      if_false]
  rw [List.cons_append, tokens?_number hc, ← List.cons_append, hsplit, hr, Option.bind_some]

/-- The tokens of a text that is a numeral. -/
theorem tokens?_numeral {n : Numeral} (h : WritesNumeral text n) :
    tokens? text = some [.number n.value] := by
  have ht := tokens?_of_writesNumeral h (stopsAt_nil _) (stopsAt_nil _)
  rw [List.append_nil, tokens?] at ht
  exact ht

/-- The tokens of a text that reads as a finite number: the number, perhaps behind a sign. -/
theorem tokens?_of_readNumber? {x : Float} (h : readNumber? text = some x) (hx : x.isFinite) :
    tokens? text = some [.number x] ∨ ∃ sign negative y, Token.negative? sign = some negative ∧
      tokens? text = some [sign, .number y] ∧ x = withSign negative y := by
  obtain ⟨hs, hw⟩ := writesNumber_of_readNumber? h hx
  have ht := tokens?_numeral hw
  rcases hs with rfl | rfl | rfl
  · exact .inl ht
  · exact .inr ⟨.plus, false, _, rfl, by rw [List.singleton_append, tokens?_token rfl, ht]; rfl, rfl⟩
  · exact .inr ⟨.minus, true, _, rfl, by rw [List.singleton_append, tokens?_token rfl, ht]; rfl, rfl⟩

end Formula

end Spreadsheet
