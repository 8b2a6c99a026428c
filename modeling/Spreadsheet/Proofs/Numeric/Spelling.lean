import Mathlib.Data.List.TakeWhile
import Spreadsheet.Numeric.Numeral
import Spreadsheet.Proofs.Text.Stretch

/-!
# Texts of numerals

The grammar of numerals,

    Numeral  ::= Digits ( "." Digits? )? Exponent? | "." Digits Exponent?
    Exponent ::= ( "e" | "E" ) ( "+" | "-" )? Digits

as a relation between texts and numerals (`WritesNumeral`). A text is scanned whole exactly if the
grammar has it (`scan?_eq_some_iff`).
-/

namespace Spreadsheet.Numeric

/-- Whether a character marks an exponent. -/
def isMark (c : Char) : Bool := c = 'e' || c = 'E'

/-- Whether a text is a digit or more. -/
structure IsDigits (text : List Char) : Prop where
  ne_nil : text ≠ []
  digits : ∀ c ∈ text, isDigit c

/-- The exponents of the grammar with their values; no exponent is the exponent zero. -/
inductive WritesExponent : List Char → Int → Prop where
  | none : WritesExponent [] 0
  | marked {mark sign digits} : isMark mark → sign = [] ∨ sign = ['+'] ∨ sign = ['-'] →
      IsDigits digits → WritesExponent (mark :: (sign ++ digits))
        (if sign = ['-'] then -(digitsValue digits : Int) else digitsValue digits)

/-- The texts of the grammar with the numerals that they write. -/
inductive WritesNumeral : List Char → Numeral → Prop where
  | whole {whole tail k} : IsDigits whole → WritesExponent tail k →
      WritesNumeral (whole ++ tail) ⟨whole, [], k⟩
  | point {whole fraction tail k} : (∀ c ∈ whole, isDigit c) → (∀ c ∈ fraction, isDigit c) →
      whole ≠ [] ∨ fraction ≠ [] → WritesExponent tail k →
      WritesNumeral (whole ++ '.' :: (fraction ++ tail)) ⟨whole, fraction, k⟩

variable {c : Char} {text rest tail : List Char} {n : Numeral} {k : Int}

/-! ## Signs -/

theorem splitSign_cases (text : List Char) :
    (∃ rest, text = '-' :: rest ∧ splitSign text = (true, rest)) ∨
      (∃ rest, text = '+' :: rest ∧ splitSign text = (false, rest)) ∨
        splitSign text = (false, text) := by
  unfold splitSign
  split
  · exact .inl ⟨_, rfl, rfl⟩
  · exact .inr (.inl ⟨_, rfl, rfl⟩)
  · exact .inr (.inr rfl)

theorem splitSign_of_ne (h : c ≠ '+' ∧ c ≠ '-') (after : List Char) :
    splitSign (c :: after) = (false, c :: after) := by
  rcases splitSign_cases (c :: after) with ⟨rest, hc, -⟩ | ⟨rest, hc, -⟩ | hs
  · exact absurd (List.cons.inj hc).1 h.2
  · exact absurd (List.cons.inj hc).1 h.1
  · exact hs

/-- A sign is split off what does not start with one. -/
theorem splitSign_of_sign {sign : List Char} (hs : sign = [] ∨ sign = ['+'] ∨ sign = ['-'])
    (hc : c ≠ '+' ∧ c ≠ '-') (after : List Char) :
    splitSign (sign ++ c :: after) = (decide (sign = ['-']), c :: after) := by
  rcases hs with rfl | rfl | rfl
  · exact splitSign_of_ne hc after
  · rfl
  · rfl

theorem exists_sign (text : List Char) :
    ∃ sign, text = sign ++ (splitSign text).2 ∧ (splitSign text).1 = decide (sign = ['-']) ∧
      (sign = [] ∨ sign = ['+'] ∨ sign = ['-']) := by
  rcases splitSign_cases text with ⟨rest, rfl, hs⟩ | ⟨rest, rfl, hs⟩ | hs
  · exact ⟨['-'], rfl, by simp [hs], by simp⟩
  · exact ⟨['+'], rfl, by simp [hs], by simp⟩
  · exact ⟨[], by rw [hs, List.nil_append], by simp [hs], by simp⟩

theorem ne_sign_of_isDigit (h : isDigit c) : c ≠ '+' ∧ c ≠ '-' := by
  constructor <;> rintro rfl <;> exact absurd h (by decide)

/-- A sign is split off the digits behind it. -/
theorem splitSign_of_isDigits {sign digits : List Char}
    (hs : sign = [] ∨ sign = ['+'] ∨ sign = ['-']) (hd : IsDigits digits) (rest : List Char) :
    splitSign (sign ++ digits ++ rest) = (decide (sign = ['-']), digits ++ rest) := by
  obtain ⟨d, ds, rfl⟩ := List.exists_cons_of_ne_nil hd.ne_nil
  rw [List.append_assoc, List.cons_append]
  exact splitSign_of_sign hs (ne_sign_of_isDigit (hd.digits d List.mem_cons_self)) (ds ++ rest)

/-! ## Exponents -/

theorem isMark_iff {c : Char} : isMark c ↔ c = 'e' ∨ c = 'E' := by
  simp [isMark]

theorem not_isDigit_of_isMark {c : Char} (h : isMark c) : isDigit c = false := by
  rcases isMark_iff.mp h with rfl | rfl <;> rfl

theorem isBlank_of_isMark {c : Char} (h : isMark c) : Text.isBlank c = false := by
  rcases isMark_iff.mp h with rfl | rfl <;> rfl

/-- Where neither a mark nor what follows an exponent is of a kind, a stretch of that kind stops at
the exponent. -/
theorem WritesExponent.stopsAt (h : WritesExponent tail k) {p : Char → Bool}
    (hp : ∀ c, isMark c → p c = false) (hr : StopsAt p rest) : StopsAt p (tail ++ rest) := by
  cases h with
  | none => exact hr
  | marked hm _ _ => exact stopsAt_cons (hp _ hm) _

/-- An exponent is scanned whole if no digit and no mark follows it. -/
theorem WritesExponent.scan_append (h : WritesExponent tail k) (hd : StopsAt isDigit rest)
    (hm : StopsAt isMark rest) : scanExponent (tail ++ rest) = (k, rest) := by
  cases h with
  | none =>
    cases rest with
    | nil => rfl
    | cons c rest =>
      have hc : ¬ (c = 'e' ∨ c = 'E') := by
        rw [← isMark_iff, hm c rfl]
        decide
      simp only [List.nil_append, scanExponent, hc, false_and, if_false]
  | @marked mark sign digits hmark hsign hdigits =>
    have hsplit := splitSign_of_isDigits hsign hdigits rest
    have htake := takeWhile_append_stopsAt hdigits.digits hd
    have hdrop := dropWhile_append_stopsAt hdigits.digits hd
    simp only [List.cons_append, scanExponent, hsplit, htake, hdrop, isMark_iff.mp hmark,
      hdigits.ne_nil, ne_eq, not_false_eq_true, and_self, if_true, decide_eq_true_eq]

/-- What is scanned as an exponent is one. -/
theorem writesExponent_scanExponent (text : List Char) :
    ∃ tail, text = tail ++ (scanExponent text).2 ∧ WritesExponent tail (scanExponent text).1 := by
  cases text with
  | nil => exact ⟨[], rfl, .none⟩
  | cons mark rest =>
    simp only [scanExponent]
    split
    · rename_i h
      have hd : IsDigits ((splitSign rest).2.takeWhile isDigit) :=
        ⟨h.2, fun c hc => List.mem_takeWhile_imp hc⟩
      obtain ⟨sign, hrest, hneg, hsign⟩ := exists_sign rest
      refine ⟨mark :: (sign ++ (splitSign rest).2.takeWhile isDigit), ?_, ?_⟩
      · rw [List.cons_append, List.append_assoc, List.takeWhile_append_dropWhile, ← hrest]
      · have hw := WritesExponent.marked (isMark_iff.mpr h.1) hsign hd
        simp only [hneg, decide_eq_true_eq]
        exact hw
    · exact ⟨[], rfl, .none⟩

/-! ## Numerals -/

theorem scanFraction_of_stopsAt (hp : StopsAt (· = '.') rest) : scanFraction rest = ([], rest) := by
  unfold scanFraction
  split
  · exact absurd (hp '.' rfl) (by decide)
  · rfl

/-- A numeral is scanned whole if no digit, no point and no mark of an exponent follows it. -/
theorem WritesNumeral.scan?_append (h : WritesNumeral text n) (hd : StopsAt isDigit rest)
    (hm : StopsAt isMark rest) (hp : StopsAt (· = '.') rest) :
    Numeral.scan? (text ++ rest) = some (n, rest) := by
  cases h with
  | @whole whole tail k hw ht =>
    have hs := ht.stopsAt (fun _ => not_isDigit_of_isMark) hd
    have hf := scanFraction_of_stopsAt (ht.stopsAt (fun c hc => by
      rcases isMark_iff.mp hc with rfl | rfl <;> rfl) hp)
    rw [List.append_assoc]
    simp only [Numeral.scan?, takeWhile_append_stopsAt hw.digits hs,
      dropWhile_append_stopsAt hw.digits hs, hf, hw.ne_nil, false_and, if_false,
      ht.scan_append hd hm]
  | @point whole fraction tail k hw hf hne ht =>
    have hs := ht.stopsAt (fun _ => not_isDigit_of_isMark) hd
    have hpoint : StopsAt isDigit ('.' :: (fraction ++ (tail ++ rest))) := stopsAt_cons rfl _
    have hnot : ¬ (whole = [] ∧ fraction = []) := fun h =>
      hne.elim (fun hw => hw h.1) (fun hf => hf h.2)
    rw [List.append_assoc, List.cons_append, List.append_assoc]
    simp only [Numeral.scan?, takeWhile_append_stopsAt hw hpoint,
      dropWhile_append_stopsAt hw hpoint, scanFraction, takeWhile_append_stopsAt hf hs,
      dropWhile_append_stopsAt hf hs, hnot, if_false, ht.scan_append hd hm]

theorem scanFraction_cases (text : List Char) :
    (∃ after, text = '.' :: after ∧
      scanFraction text = (after.takeWhile isDigit, after.dropWhile isDigit)) ∨
    scanFraction text = ([], text) := by
  unfold scanFraction
  split
  · exact .inl ⟨_, rfl, rfl⟩
  · exact .inr rfl

/-- What is scanned as a numeral is one. -/
theorem writesNumeral_of_scan? (h : Numeral.scan? text = some (n, rest)) :
    ∃ taken, text = taken ++ rest ∧ WritesNumeral taken n := by
  simp only [Numeral.scan?] at h
  split at h
  · cases h
  · rename_i hne
    simp only [Option.some.injEq, Prod.mk.injEq] at h
    obtain ⟨rfl, rfl⟩ := h
    have hw : ∀ c ∈ text.takeWhile isDigit, isDigit c := fun c hc => List.mem_takeWhile_imp hc
    have hsplit := (List.takeWhile_append_dropWhile (p := isDigit) (l := text)).symm
    rcases scanFraction_cases (text.dropWhile isDigit) with ⟨after, hafter, hs⟩ | hs <;>
      rw [hs] at hne ⊢
    · obtain ⟨tail, ht, hexp⟩ := writesExponent_scanExponent (after.dropWhile isDigit)
      refine ⟨text.takeWhile isDigit ++ '.' :: (after.takeWhile isDigit ++ tail), ?_,
        .point hw (fun c hc => List.mem_takeWhile_imp hc) (not_and_or.mp hne) hexp⟩
      rw [List.append_assoc, List.cons_append, List.append_assoc, ← ht,
        List.takeWhile_append_dropWhile, ← hafter, ← hsplit]
    · obtain ⟨tail, ht, hexp⟩ := writesExponent_scanExponent (text.dropWhile isDigit)
      have hwhole : text.takeWhile isDigit ≠ [] := fun hnil => hne ⟨hnil, rfl⟩
      refine ⟨text.takeWhile isDigit ++ tail, ?_, .whole ⟨hwhole, hw⟩ hexp⟩
      rw [List.append_assoc, ← ht, ← hsplit]

theorem scan?_eq_some_iff : Numeral.scan? text = some (n, []) ↔ WritesNumeral text n := by
  constructor
  · intro h
    obtain ⟨taken, rfl, hw⟩ := writesNumeral_of_scan? h
    rwa [List.append_nil]
  · intro h
    have hs := h.scan?_append (stopsAt_nil _) (stopsAt_nil _) (stopsAt_nil _)
    rwa [List.append_nil] at hs

end Spreadsheet.Numeric
