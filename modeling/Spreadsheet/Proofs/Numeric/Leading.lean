import Spreadsheet.Proofs.Numeric.Signed

/-!
# The longest number at the start of a text

A scanner that takes what it can from left to right need not take the longest start of a kind. The
scanner of numerals does (`WritesNumeral.exists_scan?`): where a numeral goes on behind what a
shorter one takes, the scanner is still among its digits, or at its point or the mark of its
exponent. So the number at the start of a text is the one of the longest start that is a number
(`leadingNumber?_eq_some_iff`).
-/

namespace Spreadsheet

/-- Whether a text is the longest start of another one that is of a kind. -/
structure IsLongestStart (kind : List Char → Prop) (text start : List Char) : Prop where
  isStart : start <+: text
  ofKind : kind start
  longest : ∀ other, other <+: text → kind other → other.length ≤ start.length

theorem IsLongestStart.unique {kind : List Char → Prop} {text start other : List Char}
    (h : IsLongestStart kind text start) (h' : IsLongestStart kind text other) : start = other := by
  have hlength := Nat.le_antisymm (h'.longest start h.isStart h.ofKind)
    (h.longest other h'.isStart h'.ofKind)
  exact (List.prefix_of_prefix_length_le h.isStart h'.isStart hlength.le).eq_of_length hlength

namespace Numeric

variable {text rest taken : List Char} {n m : Numeral} {x : Float} {k : Int}

/-- Whether a text is a signed numeral. -/
def IsNumber (text : List Char) : Prop := ∃ x, WritesNumber text x

/-! ## Scanning on -/

/-- An exponent is scanned at least as far as it goes. -/
theorem WritesExponent.length_scanExponent_le (h : WritesExponent taken k) (rest : List Char) :
    (scanExponent (taken ++ rest)).2.length ≤ rest.length := by
  cases h with
  | none => exact Numeric.length_scanExponent_le rest
  | @marked mark sign digits hmark hsign hdigits =>
    have hsplit := splitSign_of_isDigits hsign hdigits rest
    have htake : digits ++ rest.takeWhile isDigit ≠ [] := by
      simp [hdigits.ne_nil]
    simp only [List.cons_append, scanExponent, hsplit, List.takeWhile_append_of_pos hdigits.digits,
      List.dropWhile_append_of_pos hdigits.digits, isMark_iff.mp hmark, htake, ne_eq,
      not_false_eq_true, and_self, if_true]
    exact length_dropWhile_le isDigit rest

/-- Digits in front of an exponent are scanned on with those that follow, if it is no more than
nothing, and up to its mark otherwise. -/
theorem WritesExponent.after_digits (h : WritesExponent taken k) (rest : List Char) :
    (scanExponent ((taken ++ rest).dropWhile isDigit)).2.length ≤ rest.length ∧
      (scanExponent (scanFraction ((taken ++ rest).dropWhile isDigit)).2).2.length ≤
        rest.length := by
  have hexponent := h.length_scanExponent_le rest
  cases h with
  | none =>
    have hdigits := length_dropWhile_le isDigit rest
    have hfraction := length_scanFraction_le (rest.dropWhile isDigit)
    have hpast := Numeric.length_scanExponent_le (rest.dropWhile isDigit)
    have hpoint := Numeric.length_scanExponent_le (scanFraction (rest.dropWhile isDigit)).2
    rw [List.nil_append]
    omega
  | @marked mark sign digits hmark hsign hdigits =>
    have hdrop : ((mark :: (sign ++ digits)) ++ rest).dropWhile isDigit =
        (mark :: (sign ++ digits)) ++ rest := by
      rw [List.cons_append, List.dropWhile_cons, not_isDigit_of_isMark hmark,
        if_neg Bool.false_ne_true]
    have hpoint : StopsAt (· = '.') ((mark :: (sign ++ digits)) ++ rest) := by
      rcases isMark_iff.mp hmark with rfl | rfl <;> exact stopsAt_cons rfl _
    rw [hdrop, scanFraction_of_stopsAt hpoint]
    exact ⟨hexponent, hexponent⟩

/-- A numeral at the start of a text is scanned at least as far as it goes. -/
theorem WritesNumeral.exists_scan? (h : WritesNumeral taken n) (rest : List Char) :
    ∃ m after, Numeral.scan? (taken ++ rest) = some (m, after) ∧ after.length ≤ rest.length := by
  cases h with
  | @whole whole tail k hw ht =>
    have htake : whole ++ (tail ++ rest).takeWhile isDigit ≠ [] := by
      simp [hw.ne_nil]
    rw [List.append_assoc]
    simp only [Numeral.scan?, List.takeWhile_append_of_pos hw.digits,
      List.dropWhile_append_of_pos hw.digits, htake, false_and, if_false]
    exact ⟨_, _, rfl, (ht.after_digits rest).2⟩
  | @point whole fraction tail k hw hf hne ht =>
    have hpoint : StopsAt isDigit ('.' :: (fraction ++ (tail ++ rest))) := stopsAt_cons rfl _
    have htake : ¬ (whole = [] ∧ fraction ++ (tail ++ rest).takeWhile isDigit = []) := by
      rw [List.append_eq_nil_iff]
      exact fun h => hne.elim (fun hw => hw h.1) (fun hf => hf h.2.1)
    rw [List.append_assoc, List.cons_append, List.append_assoc]
    simp only [Numeral.scan?, takeWhile_append_stopsAt hw hpoint,
      dropWhile_append_stopsAt hw hpoint, scanFraction, List.takeWhile_append_of_pos hf,
      List.dropWhile_append_of_pos hf, htake, if_false]
    exact ⟨_, _, rfl, (ht.after_digits rest).1⟩

/-! ## The number at the start -/

/-- A signed numeral at the start of a text is scanned, its sign split off, at least as far as it
goes. -/
theorem WritesNumber.exists_scan? (h : WritesNumber taken x) (rest : List Char) :
    ∃ m after, Numeral.scan? (splitSign (taken ++ rest)).2 = some (m, after) ∧
      after.length ≤ rest.length := by
  obtain ⟨hs, hw⟩ := h
  rw [splitSign_of_writesNumeral hs hw]
  exact hw.exists_scan? rest

theorem leadingNumber?_eq_map (text : List Char) : leadingNumber? text =
    (Numeral.scan? (splitSign text).2).map fun read =>
      withSign (splitSign text).1 read.1.value :=
  rfl

/-- There is no number at the start of a text if and only if no start of it is a number. -/
theorem leadingNumber?_eq_none_iff :
    leadingNumber? text = none ↔ ∀ start, start <+: text → ¬ IsNumber start := by
  rw [leadingNumber?_eq_map, Option.map_eq_none_iff]
  constructor
  · rintro h start ⟨rest, rfl⟩ ⟨x, hx⟩
    obtain ⟨m, after, hm, -⟩ := hx.exists_scan? rest
    rw [h] at hm
    cases hm
  · intro h
    refine Option.eq_none_iff_forall_ne_some.mpr fun ⟨n, rest⟩ hn => ?_
    obtain ⟨sign, ht, -, hs⟩ := exists_sign text
    obtain ⟨taken, hrest, hw⟩ := writesNumeral_of_scan? hn
    refine h (sign ++ taken) ⟨rest, ?_⟩ ⟨_, .signed hs hw⟩
    rw [List.append_assoc, ← hrest, ← ht]

/-- What is scanned behind the sign of a text ends its longest start that is a number. -/
theorem exists_of_scan? (h : Numeral.scan? (splitSign text).2 = some (n, rest)) :
    ∃ start, text = start ++ rest ∧ IsLongestStart IsNumber text start ∧
      WritesNumber start (withSign (splitSign text).1 n.value) := by
  obtain ⟨sign, ht, hneg, hs⟩ := exists_sign text
  obtain ⟨taken, hrest, hw⟩ := writesNumeral_of_scan? h
  have htext : text = sign ++ taken ++ rest := by
    rw [List.append_assoc, ← hrest, ← ht]
  have hnumber := WritesNumber.signed hs hw
  rw [← hneg] at hnumber
  refine ⟨sign ++ taken, htext, ⟨⟨rest, htext.symm⟩, ⟨_, hnumber⟩, ?_⟩, hnumber⟩
  rintro other ⟨after, hafter⟩ ⟨y, hy⟩
  -- Both are measured by what the one scan of the text leaves.
  obtain ⟨m, left, hm, hleft⟩ := hy.exists_scan? after
  rw [hafter, h] at hm
  obtain rfl : rest = left := (Prod.mk.inj (Option.some.inj hm)).2
  have hlength := congrArg List.length (hafter.trans htext)
  simp only [List.length_append] at hlength ⊢
  omega

/-- The number at the start of a text is the one of the longest start that is a number. -/
theorem exists_of_leadingNumber? (h : leadingNumber? text = some x) :
    ∃ start, IsLongestStart IsNumber text start ∧ WritesNumber start x := by
  rw [leadingNumber?_eq_map] at h
  obtain ⟨⟨n, rest⟩, hn, rfl⟩ := Option.map_eq_some_iff.mp h
  obtain ⟨start, -, hstart, hnumber⟩ := exists_of_scan? hn
  exact ⟨start, hstart, hnumber⟩

theorem leadingNumber?_eq_some_iff : leadingNumber? text = some x ↔
    ∃ start, IsLongestStart IsNumber text start ∧ WritesNumber start x := by
  refine ⟨exists_of_leadingNumber?, fun ⟨start, hstart, hx⟩ => ?_⟩
  have hsome : leadingNumber? text ≠ none :=
    fun h => leadingNumber?_eq_none_iff.mp h start hstart.isStart ⟨x, hx⟩
  obtain ⟨y, hy⟩ := Option.ne_none_iff_exists'.mp hsome
  obtain ⟨other, hother, hyother⟩ := exists_of_leadingNumber? hy
  obtain rfl := hstart.unique hother
  rw [hy, ← readNumber?_of_writesNumber hx, readNumber?_of_writesNumber hyother]

end Numeric

end Spreadsheet
