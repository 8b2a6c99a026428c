import Spreadsheet.Proofs.Numeric.Layout
import Spreadsheet.Proofs.Numeric.Signed

/-!
# Numbers read back from their texts

Whatever the layout, a finite double reads back from its text, sign of zero included
(`readNumber?_render`): its text is that of a numeral (`writesNumeral_of_writtenAs`), and a numeral
whose value rounds to a double is read as it (`Numeral.value_eq`).
-/

namespace Spreadsheet.Numeric

variable {d : Decimal} {m : Nat} {e : Int} {whole fraction tail text : List Char} {k : Int}

/-! ## Values of numerals -/

/-- The number that a numeral writes. -/
def Numeral.rational (n : Numeral) : ℚ :=
  digitsValue (n.whole ++ n.fraction) * 10 ^ (n.exponent - n.fraction.length)

theorem digitsValue_significant (n : Numeral) :
    digitsValue ((n.whole ++ n.fraction).dropWhile (· = '0')) =
      digitsValue (n.whole ++ n.fraction) :=
  digitsValue_dropWhile _

theorem two_zpow_le_ten_zpow_310 : (2 : ℚ) ^ (1024 : Int) ≤ 10 ^ (310 : Int) := by
  have h : 2 ^ 1024 ≤ 10 ^ 310 := by decide +kernel
  rw [zpow_ofNat, zpow_ofNat]
  exact_mod_cast h

theorem ten_zpow_lt_two_zpow_1075 : (10 : ℚ) ^ (-330 : Int) < 2 ^ (-1075 : Int) := by
  have h : 2 ^ 1075 < 10 ^ 330 := by decide +kernel
  rw [zpow_neg, zpow_neg, zpow_ofNat, zpow_ofNat, inv_lt_inv₀ (by positivity) (by positivity)]
  exact_mod_cast h

/-- The digit that is left at the front is not zero. -/
theorem head_significant (cs : List Char) :
    ∀ c ∈ (cs.dropWhile (· = '0')).head?, c ≠ '0' := by
  intro c hc
  have h := List.head?_dropWhile_not (fun c : Char => decide (c = '0')) cs
  rw [Option.mem_def.mp hc] at h
  simpa using h

/-- The leading digit of what rounds to a double is neither too high nor too low. -/
theorem leading_bounds {c : Char} {cs : List Char} (hd : ∀ d ∈ c :: cs, isDigit d) (hc : c ≠ '0')
    (h : RoundsTo (digitsValue (c :: cs) * 10 ^ k) m e) (he : e ≤ 971) :
    (c :: cs).length + k ≤ 310 ∧ -330 ≤ (c :: cs).length + k := by
  have hlow : (10 : ℚ) ^ cs.length ≤ digitsValue (c :: cs) := by
    exact_mod_cast le_digitsValue (hd c List.mem_cons_self) hc cs
  have hhigh : (digitsValue (c :: cs) : ℚ) < 10 ^ (c :: cs).length := by
    exact_mod_cast digitsValue_lt hd
  have hk : (0 : ℚ) < 10 ^ k := zpow_pos (by norm_num) k
  have hlt := h.lt_two_zpow he
  have hle := h.two_zpow_le
  constructor
  · by_contra hn
    have h₁ : (10 : ℚ) ^ (310 : Int) ≤ 10 ^ ((cs.length : Int) + k) :=
      zpow_le_zpow_right₀ (by norm_num) (by rw [List.length_cons] at hn; push_cast at hn; omega)
    have h₂ : (10 : ℚ) ^ ((cs.length : Int) + k) ≤ digitsValue (c :: cs) * 10 ^ k := by
      rw [zpow_add₀ (by norm_num), zpow_natCast]
      exact mul_le_mul_of_nonneg_right hlow hk.le
    exact absurd hlt (not_lt.mpr (two_zpow_le_ten_zpow_310.trans (h₁.trans h₂)))
  · by_contra hn
    have h₁ : (10 : ℚ) ^ (((c :: cs).length : Int) + k) ≤ 10 ^ (-330 : Int) :=
      zpow_le_zpow_right₀ (by norm_num) (by omega)
    have h₂ : digitsValue (c :: cs) * (10 : ℚ) ^ k ≤ 10 ^ (((c :: cs).length : Int) + k) := by
      rw [zpow_add₀ (by norm_num), zpow_natCast]
      exact mul_le_mul_of_nonneg_right hhigh.le hk.le
    exact absurd hle (not_le.mpr ((h₂.trans h₁).trans_lt ten_zpow_lt_two_zpow_1075))

theorem Numeral.value_eq {n : Numeral} (hd : ∀ c ∈ n.whole ++ n.fraction, isDigit c)
    (h : RoundsTo n.rational m e) (he : e ≤ 971) : n.value = double .positive h.canonical := by
  unfold Numeral.rational at h
  rw [← digitsValue_significant] at h
  have hs : ∀ c ∈ (n.whole ++ n.fraction).dropWhile (· = '0'), isDigit c := fun c hc =>
    hd c (List.dropWhile_subset _ hc)
  have hz := head_significant (n.whole ++ n.fraction)
  unfold Numeral.value
  simp only
  generalize (n.whole ++ n.fraction).dropWhile (· = '0') = significant at h hs hz ⊢
  generalize n.exponent - n.fraction.length = k at h ⊢
  cases significant with
  | nil =>
    have hle := h.two_zpow_le
    have hpos := two_zpow_pos (-1075)
    have hzero : (digitsValue [] : ℚ) = 0 := by norm_num [digitsValue]
    rw [hzero, zero_mul] at hle
    exact absurd hle (not_le.mpr hpos)
  | cons c cs =>
    obtain ⟨h₁, h₂⟩ := leading_bounds hs (hz c rfl) h he
    rw [if_neg (by simp), if_neg (by omega), if_neg (by omega)]
    have hp := le_digitsValue (hs c List.mem_cons_self) (hz c rfl) cs
    exact ofScientific_eq (Nat.lt_of_lt_of_le (by positivity) hp) h he

/-- A numeral without digits other than zero is zero. -/
theorem Numeral.value_eq_zero {n : Numeral} (hd : ∀ c ∈ n.whole ++ n.fraction, isDigit c)
    (h : n.rational = 0) : n.value = zero .positive := by
  unfold Numeral.rational at h
  rw [← digitsValue_significant] at h
  have hs : ∀ c ∈ (n.whole ++ n.fraction).dropWhile (· = '0'), isDigit c := fun c hc =>
    hd c (List.dropWhile_subset _ hc)
  have hz := head_significant (n.whole ++ n.fraction)
  unfold Numeral.value
  simp only
  generalize (n.whole ++ n.fraction).dropWhile (· = '0') = significant at h hs hz ⊢
  cases significant with
  | nil =>
    have h0 : (0 : Float) = zero .positive := by decide +kernel
    exact h0
  | cons c cs =>
    have hp := le_digitsValue (hs c List.mem_cons_self) (hz c rfl) cs
    have hp' : (0 : ℚ) < digitsValue (c :: cs) := by
      exact_mod_cast Nat.lt_of_lt_of_le (by positivity) hp
    exact absurd h (mul_pos hp' (zpow_pos (by norm_num) _)).ne'

/-! ## Numerals in a text -/

theorem isDigits_digitChars (n : Nat) : IsDigits (digitChars n) :=
  ⟨digitChars_ne_nil n, fun _ hc => isDigit_of_mem_digitChars hc⟩

theorem IsExponent.writesExponent (h : IsExponent tail k) : WritesExponent tail k := by
  cases h with
  | nil => exact .none
  | signed k =>
    have hmark : isMark 'e' := rfl
    have hd := isDigits_digitChars k.natAbs
    by_cases hk : k < 0
    · have hv : -(k.natAbs : Int) = k := by omega
      have hw := WritesExponent.marked hmark (.inr (.inr rfl)) hd
      rw [if_pos rfl, digitsValue_digitChars, hv] at hw
      rw [if_pos hk]
      exact hw
    · have hv : (k.natAbs : Int) = k := by omega
      have hw := WritesExponent.marked hmark (.inr (.inl rfl)) hd
      rw [if_neg (by decide), digitsValue_digitChars, hv] at hw
      rw [if_neg hk]
      exact hw

theorem writesNumeral_of_writtenAs (h : d.WrittenAs whole fraction tail k) :
    WritesNumeral (whole ++ (if fraction = [] then [] else '.' :: fraction) ++ tail)
      ⟨whole, fraction, k⟩ := by
  have hw : ∀ c ∈ whole, isDigit c := fun c hc => h.digits c (List.mem_append_left _ hc)
  have hf : ∀ c ∈ fraction, isDigit c := fun c hc => h.digits c (List.mem_append_right _ hc)
  by_cases hne : fraction = []
  · subst hne
    rw [if_pos rfl, List.append_nil]
    exact .whole ⟨h.ne_nil, hw⟩ h.exponent.writesExponent
  · rw [if_neg hne, List.append_assoc, List.cons_append]
    exact .point hw hf (.inl h.ne_nil) h.exponent.writesExponent

/-! ## Reading back -/

/-- A numeral that rounds to the absolute value of a finite double is the double behind its sign. -/
theorem withSign_value_of_roundsTo {x : Float} (hx : x.isFinite) {n : Numeral}
    (hd : ∀ c ∈ n.whole ++ n.fraction, isDigit c)
    (hzero : (Dyadic.ofFloat x).mantissa = 0 → n.rational = 0)
    (hrounds : ∀ m e, Canonical m e → Dyadic.ofFloat x = dyadic m e → RoundsTo n.rational m e) :
    withSign (isNegative x) n.value = x := by
  rcases exists_of_isFinite hx with ⟨sign, rfl, hm, hs⟩ | ⟨sign, m, e, h, he, rfl, hm, hs⟩
  · rw [hs, Numeral.value_eq_zero hd (hzero hm), withSign_zero]
  · rw [hs, Numeral.value_eq hd (hrounds m e h hm) he]
    exact withSign_double h he

/-- What writes the shortest decimal of a double is read as its absolute value. -/
theorem withSign_value_eq {x : Float} (hx : x.isFinite) {tie : Tie} {n : Numeral}
    (hd : ∀ c ∈ n.whole ++ n.fraction, isDigit c)
    (hn : n.rational = ((Dyadic.ofFloat x).shortest tie).value) :
    withSign (isNegative x) n.value = x := by
  refine withSign_value_of_roundsTo hx hd (fun hm => ?_) fun m e h hm => ?_
  · rw [hn, Dyadic.shortest, if_pos hm]
    norm_num [Decimal.value]
  · rw [hn, hm]
    exact roundsTo_shortest h tie

/-- The whole part of a whole number is its absolute value. -/
theorem wholePart_eq {x : Float} (h : isWhole x) : (wholePart x : ℚ) =
    (Dyadic.ofFloat x).mantissa * 2 ^ (Dyadic.ofFloat x).exponent := by
  simp only [isWhole, wholePart, Nat.pow_eq, decide_eq_true_eq] at h ⊢
  rw [zpow_eq_div (by norm_num : (2 : ℚ) ≠ 0), Nat.cast_div (Nat.dvd_of_mod_eq_zero h) (by positivity)]
  push_cast
  ring

/-- The digits of a whole number are read as its absolute value. -/
theorem withSign_value_wholePart {x : Float} (hx : x.isFinite) (h : isWhole x) :
    withSign (isNegative x) (⟨digitChars (wholePart x), [], 0⟩ : Numeral).value = x := by
  have hvalue : (⟨digitChars (wholePart x), [], 0⟩ : Numeral).rational =
      (Dyadic.ofFloat x).mantissa * 2 ^ (Dyadic.ofFloat x).exponent := by
    rw [← wholePart_eq h]
    simp [Numeral.rational]
  refine withSign_value_of_roundsTo hx ?_ (fun hm => ?_) fun m e hc hm => ?_
  · rw [List.append_nil]
    exact fun c => isDigit_of_mem_digitChars
  · rw [hvalue, hm, Nat.cast_zero, zero_mul]
  · rw [hvalue, hm]
    exact .self hc

/-- Whatever the layout, the text of a finite double is a signed numeral, which is read as it. -/
theorem writesNumber_render (l : Layout) {x : Float} (hx : x.isFinite) :
    WritesNumber (l.render x).toList x := by
  obtain ⟨text, ht, whole, fraction, tail, k, hw, rfl⟩ := exists_writes_render l hx
  have hs := writesNumber_of_writesNumeral (isNegative x) (writesNumeral_of_writtenAs hw)
  rwa [withSign_value_eq hx (n := ⟨whole, fraction, k⟩) hw.digits hw.value, ← ht] at hs

theorem readNumber?_render (l : Layout) {x : Float} (hx : x.isFinite) :
    readNumber? (l.render x).toList = some x :=
  readNumber?_of_writesNumber (writesNumber_render l hx)

end Spreadsheet.Numeric
