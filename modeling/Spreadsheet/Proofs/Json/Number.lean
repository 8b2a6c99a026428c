import Spreadsheet.Json.Decode
import Spreadsheet.Json.Token
import Spreadsheet.Proofs.Numeric.ReadBack
import Spreadsheet.Proofs.Text.Stretch

/-!
# Numbers in JSON

What is written for a finite double or for an index is a number of JSON (`isLiteral_render`,
`isLiteral_digitChars`) and stands for what it was written for (`float?_ofFloat`,
`index?_ofIndex`). In a printed text, a number is followed by a comma, by a line break or by
nothing.
-/

namespace Spreadsheet.Json

open Numeric

variable {d : Decimal} {cs ds rest whole fraction tail text : List Char} {k : Int} {p : Char → Bool}

/-! ## Scanning -/

/-- Whether a text starts with a character that may follow a number, or is empty. -/
def Delimited (rest : List Char) : Prop := ∀ c ∈ rest.head?, c = ',' ∨ c = '\n'

theorem scanDigits?_append (before : List Char) (hd : ∀ c ∈ ds, isDigit c) (hne : ds ≠ [])
    (hr : StopsAt isDigit rest) :
    scanDigits? before (ds ++ rest) = some (before ++ ds, rest) := by
  unfold scanDigits?
  simp only [takeWhile_append_stopsAt hd hr, dropWhile_append_stopsAt hd hr, hne, if_false]

theorem scanWhole?_append (hd : ∀ c ∈ whole, isDigit c) (hne : whole ≠ [])
    (hl : whole = ['0'] ∨ whole.head? ≠ some '0') (hr : StopsAt isDigit rest) :
    scanWhole? (whole ++ rest) = some (whole, rest) := by
  rcases hl with rfl | hl
  · rfl
  · unfold scanWhole?
    split
    · rename_i cs rest' he
      cases whole with
      | nil => exact absurd rfl hne
      | cons c whole => simp_all
    · simp only [takeWhile_append_stopsAt hd hr, dropWhile_append_stopsAt hd hr, hne, if_false]

theorem scanExponent?_append (ht : IsExponent tail k) (hr : Delimited rest) :
    scanExponent? (tail ++ rest) = some (tail, rest) := by
  have hs : StopsAt isDigit rest := by
    intro c hc
    rcases hr c hc with rfl | rfl <;> decide
  cases ht with
  | nil =>
    cases rest with
    | nil => rfl
    | cons c rest => rcases hr c rfl with rfl | rfl <;> rfl
  | signed k =>
    have hd : ∀ c ∈ digitChars k.natAbs, isDigit c := fun c hc => isDigit_of_mem_digitChars hc
    have hne := digitChars_ne_nil k.natAbs
    split
    · exact scanDigits?_append ['e', '-'] hd hne hs
    · exact scanDigits?_append ['e', '+'] hd hne hs

theorem stopsAt_tail (ht : IsExponent tail k) (hr : Delimited rest) (he : p 'e' = false)
    (hc : p ',' = false) (hn : p '\n' = false) : StopsAt p (tail ++ rest) := by
  intro c hm
  cases ht with
  | nil => rcases hr c hm with rfl | rfl <;> assumption
  | signed k =>
    simp only [List.cons_append, List.head?_cons, Option.mem_def, Option.some.injEq] at hm
    rwa [← hm]

theorem scanNumber?_append (h : d.WrittenAs whole fraction tail k) (hr : Delimited rest)
    (negative : Bool) :
    scanNumber? ((if negative then ['-'] else []) ++
      (whole ++ (if fraction = [] then [] else '.' :: fraction) ++ tail) ++ rest) =
        some ((if negative then ['-'] else []) ++
          (whole ++ (if fraction = [] then [] else '.' :: fraction) ++ tail), rest) := by
  have hd : ∀ c ∈ whole, isDigit c := fun c hc => h.digits c (List.mem_append_left _ hc)
  have hf : ∀ c ∈ fraction, isDigit c := fun c hc => h.digits c (List.mem_append_right _ hc)
  have hs := @stopsAt_tail _ _ _ isDigit h.exponent hr (by decide) (by decide) (by decide)
  have hfraction : scanFraction? ((if fraction = [] then [] else '.' :: fraction) ++
      (tail ++ rest)) = some (if fraction = [] then [] else '.' :: fraction, tail ++ rest) := by
    by_cases hne : fraction = []
    · have hpoint := @stopsAt_tail _ _ _ (· = '.') h.exponent hr (by decide) (by decide) (by decide)
      rw [if_pos hne, List.nil_append]
      unfold scanFraction?
      split
      · rename_i rest' he
        exact absurd (hpoint '.' (by rw [he]; rfl)) (by decide)
      · rfl
    · rw [if_neg hne]
      exact scanDigits?_append ['.'] hf hne hs
  have hwhole : scanWhole? (whole ++ ((if fraction = [] then [] else '.' :: fraction) ++
      (tail ++ rest))) = some (whole, (if fraction = [] then [] else '.' :: fraction) ++
        (tail ++ rest)) := by
    refine scanWhole?_append hd h.ne_nil h.leading ?_
    by_cases hne : fraction = []
    · rwa [if_pos hne, List.nil_append]
    · intro c hc
      rw [if_neg hne, List.cons_append, List.head?_cons, Option.mem_def, Option.some.injEq] at hc
      rw [← hc]
      decide
  have hexponent := scanExponent?_append h.exponent hr
  cases negative with
  | true => simp [scanNumber?, hwhole, hfraction, hexponent]
  | false =>
    obtain ⟨c, cs, rfl⟩ := List.exists_cons_of_ne_nil h.ne_nil
    have hc : c ≠ '-' := by
      rintro rfl
      exact absurd (hd '-' List.mem_cons_self) (by decide)
    simp only [List.cons_append] at hwhole
    simp [scanNumber?, hwhole, hfraction, hexponent, hc]

/-- Whether a text is a number in front of what may follow one. -/
def IsLiteral (literal : List Char) : Prop :=
  ∀ rest, Delimited rest → scanNumber? (literal ++ rest) = some (literal, rest)

theorem isLiteral_render (l : Layout) {x : Float} (hx : x.isFinite) :
    IsLiteral (l.render x).toList := by
  obtain ⟨text, ht, whole, fraction, tail, k, hw, rfl⟩ := exists_writes_render l hx
  intro rest hr
  rw [ht]
  exact scanNumber?_append hw hr _

theorem isLiteral_digitChars (n : Nat) : IsLiteral (digitChars n) := by
  have hw : (⟨n, 0⟩ : Decimal).WrittenAs (digitChars n) [] [] 0 :=
    ⟨fun c hc => isDigit_of_mem_digitChars (by rwa [List.append_nil] at hc), digitChars_ne_nil n,
      leading_digitChars n, .nil, by simp [Decimal.value]⟩
  intro rest hr
  have h := scanNumber?_append hw hr false
  simpa using h

/-! ## Reading back -/

theorem float?_ofFloat {x : Float} (hx : x.isFinite) : (ofFloat x).float? = some x := by
  rw [ofFloat, if_pos hx, float?, readNumber?_render numberLayout hx, Option.filter_some, if_pos hx]

theorem readIndex?_digitChars {n : Nat} (hn : n ≤ maxIndex) :
    readIndex? (digitChars n) = some n := by
  have hall : (digitChars n).all isDigit = true :=
    List.all_eq_true.mpr fun c hc => isDigit_of_mem_digitChars hc
  have hempty : (digitChars n).isEmpty = false := by
    simpa using digitChars_ne_nil n
  unfold readIndex?
  split
  · rename_i rest he
    have hd := @isDigit_of_mem_digitChars '+' n (he ▸ List.mem_cons_self)
    exact absurd hd (by decide)
  · simp only [hempty, hall, Bool.not_true, Bool.or_self, Bool.false_eq_true, if_false,
      digitsValue_digitChars, hn, if_true]

theorem index?_ofIndex {n : Nat} (hn : n ≤ maxIndex) : (ofIndex n).index? = some n :=
  readIndex?_digitChars hn

theorem indexKey?_digitChars {n : Nat} (hn : n ≤ maxIndex) : indexKey? (digitChars n) = some n := by
  unfold indexKey?
  split
  · rename_i he
    have hv := digitsValue_digitChars n
    rw [he] at hv
    rw [← hv]
    rfl
  · rename_i rest hne he
    rcases leading_digitChars n with h0 | h0
    · exact absurd (he.symm.trans h0) (by simpa using hne)
    · exact absurd (by rw [he]; rfl) h0
  · rename_i rest he
    have hd := @isDigit_of_mem_digitChars '+' n (he ▸ List.mem_cons_self)
    exact absurd hd (by decide)
  · exact readIndex?_digitChars hn

/-- Digits are written as they are in a key. -/
theorem escape_digitChars (n : Nat) : escape (digitChars n) = digitChars n := by
  have he : ∀ {c}, isDigit c → escapeChar c = [c] := by
    intro c hc
    unfold escapeChar
    split
    case h_8 =>
      have := isDigit_iff.mp hc
      exact if_neg (by omega)
    all_goals exact absurd hc (by decide)
  have hd : ∀ cs : List Char, (∀ c ∈ cs, isDigit c) → escape cs = cs := by
    intro cs
    induction cs with
    | nil => intro _; rfl
    | cons c cs ih =>
      intro h
      rw [escape, List.flatMap_cons, he (h c List.mem_cons_self), ← escape,
        ih fun d hd => h d (List.mem_cons_of_mem c hd), List.singleton_append]
  exact hd _ fun c hc => isDigit_of_mem_digitChars hc

end Spreadsheet.Json
