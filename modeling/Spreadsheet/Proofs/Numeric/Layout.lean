import Spreadsheet.Proofs.Numeric.Digits
import Spreadsheet.Proofs.Numeric.Shortest

/-!
# The texts of decimals

A text writes a decimal (`Decimal.Writes`) when it is made of digits, perhaps a point with more
digits, and perhaps an exponent, and the three together are the value of the decimal. Both forms of
a decimal do (`writes_positional`, `writes_withExponent`), and the text of a finite double writes
its shortest decimal behind its sign (`exists_writes_render`).
-/

namespace Spreadsheet.Numeric

variable {d : Decimal} {whole fraction tail text : List Char} {k : Int}

/-! ## Writing -/

/-- The exponent of a numeral as it is written: none, or a mark, a sign and digits. -/
inductive IsExponent : List Char → Int → Prop where
  | nil : IsExponent [] 0
  | signed (k : Int) : IsExponent ('e' :: (if k < 0 then '-' else '+') :: digitChars k.natAbs) k

/-- The parts of a numeral that writes a decimal. The whole part starts with a zero only if that is
all of it. -/
structure Decimal.WrittenAs (d : Decimal) (whole fraction tail : List Char) (k : Int) : Prop where
  digits : ∀ c ∈ whole ++ fraction, isDigit c
  ne_nil : whole ≠ []
  leading : whole = ['0'] ∨ whole.head? ≠ some '0'
  exponent : IsExponent tail k
  value : digitsValue (whole ++ fraction) * (10 : ℚ) ^ (k - fraction.length) = d.value

/-- Whether a text writes a decimal. -/
def Decimal.Writes (d : Decimal) (text : List Char) : Prop :=
  ∃ whole fraction tail k, d.WrittenAs whole fraction tail k ∧
    text = whole ++ (if fraction = [] then [] else '.' :: fraction) ++ tail

/-! ## Digits of a number -/

theorem length_digitChars (n : Nat) : (digitChars n).length = digitCount n := by
  induction n using digitCount.induct with
  | case1 n h =>
    rw [digitCount, if_pos h, digitChars, Nat.toDigits_of_lt_base h]
    rfl
  | case2 n h ih =>
    rw [digitCount, if_neg h, ← ih, digitChars, Nat.toDigits_of_base_le (by decide) (by omega),
      List.length_append]
    rfl

theorem head_digitChars {n : Nat} (hn : n ≠ 0) : (digitChars n).head? ≠ some '0' := by
  induction n using digitCount.induct with
  | case1 n h =>
    have table : ∀ n < 10, n ≠ 0 → Nat.digitChar n ≠ '0' := by decide
    rw [digitChars, Nat.toDigits_of_lt_base h, List.head?_singleton, ne_eq, Option.some.injEq]
    exact table n h hn
  | case2 n h ih =>
    rw [digitChars, Nat.toDigits_of_base_le (by decide) (by omega),
      List.head?_append_of_ne_nil _ Nat.toDigits_ne_nil]
    exact ih (by omega)

theorem leading_digitChars (n : Nat) :
    digitChars n = ['0'] ∨ (digitChars n).head? ≠ some '0' := by
  by_cases hn : n = 0
  · rw [hn]
    exact .inl rfl
  · exact .inr (head_digitChars hn)

/-- Zeros at the end raise the number by a power of ten. -/
theorem digitsValue_append_zeros (cs : List Char) (n : Nat) :
    digitsValue (cs ++ List.replicate n '0') = 10 ^ n * digitsValue cs := by
  rw [digitsValue_append, digitsValue_replicate, List.length_replicate, Nat.add_zero]

/-- Zeros at the front change nothing. -/
theorem digitsValue_zeros_append (n : Nat) (cs : List Char) :
    digitsValue (List.replicate n '0' ++ cs) = digitsValue cs := by
  rw [digitsValue_append, digitsValue_replicate, Nat.mul_zero, Nat.zero_add]

theorem isDigit_of_mem_zeros {n : Nat} {c : Char} (h : c ∈ List.replicate n '0') :
    isDigit c := by
  rw [List.eq_of_mem_replicate h]
  decide

/-! ## The two forms -/

/-- A whole number, with zeros behind its digits. -/
theorem writes_whole (hd : 0 ≤ d.exponent) (hz : d.digits = 0 → d.exponent = 0)
    (pointZero : Bool) :
    d.Writes (digitChars d.digits ++ List.replicate d.exponent.toNat '0' ++
      (if pointZero then ['.', '0'] else [])) := by
  have hw : ∀ c ∈ digitChars d.digits ++ List.replicate d.exponent.toNat '0', isDigit c := by
    intro c hc
    rcases List.mem_append.mp hc with hc | hc
    · exact isDigit_of_mem_digitChars hc
    · exact isDigit_of_mem_zeros hc
  have hne : digitChars d.digits ++ List.replicate d.exponent.toNat '0' ≠ [] :=
    List.append_ne_nil_of_left_ne_nil (digitChars_ne_nil _) _
  have hl : digitChars d.digits ++ List.replicate d.exponent.toNat '0' = ['0'] ∨
      (digitChars d.digits ++ List.replicate d.exponent.toNat '0').head? ≠ some '0' := by
    by_cases hn : d.digits = 0
    · rw [hz hn, hn]
      exact .inl rfl
    · rw [List.head?_append_of_ne_nil _ (digitChars_ne_nil _)]
      exact .inr (head_digitChars hn)
  have hv : (digitsValue (digitChars d.digits ++ List.replicate d.exponent.toNat '0') : ℚ) =
      d.value := by
    rw [digitsValue_append_zeros, digitsValue_digitChars, Decimal.value, mul_comm, Nat.cast_mul,
      Nat.cast_pow, ← zpow_natCast, Int.toNat_of_nonneg hd, Nat.cast_ofNat]
  cases pointZero with
  | false =>
    refine ⟨_, [], [], 0, ⟨?_, hne, hl, .nil, ?_⟩, by simp⟩
    · rwa [List.append_nil]
    · simp [hv]
  | true =>
    refine ⟨_, ['0'], [], 0, ⟨?_, hne, hl, .nil, ?_⟩, by simp⟩
    · intro c hc
      rcases List.mem_append.mp hc with hc | hc
      · exact hw c hc
      · rw [List.mem_singleton.mp hc]
        decide
    · have h0 : digitsValue ['0'] = 0 := by decide
      rw [digitsValue_append, h0, Nat.add_zero, Nat.cast_mul, hv]
      norm_num
      ring

/-- Digits parted by a point. -/
theorem writes_parts {digits : List Char} {i : Nat} (hd : ∀ c ∈ digits, isDigit c)
    (hv : digitsValue digits = d.digits) (hi : 0 < i) (hi' : i < digits.length)
    (hl : digits.take i = ['0'] ∨ (digits.take i).head? ≠ some '0') (ht : IsExponent tail k)
    (hk : k - (digits.drop i).length = d.exponent) :
    d.Writes (digits.take i ++ '.' :: (digits.drop i ++ tail)) := by
  have hne : digits.take i ≠ [] := by
    rw [← List.length_pos_iff, List.length_take]
    omega
  have hne' : digits.drop i ≠ [] := by
    rw [← List.length_pos_iff, List.length_drop]
    omega
  refine ⟨digits.take i, digits.drop i, tail, k, ⟨?_, hne, hl, ht, ?_⟩, ?_⟩
  · rwa [List.take_append_drop]
  · rw [List.take_append_drop, hv, hk, Decimal.value]
  · rw [if_neg hne', List.append_assoc, List.cons_append]

theorem head?_take_of_pos {α : Type} {l : List α} {i : Nat} (hi : 0 < i) :
    (l.take i).head? = l.head? := by
  cases l <;> cases i <;> simp_all

theorem writes_positional (d : Decimal) (hz : d.digits = 0 → d.exponent = 0) (pointZero : Bool) :
    d.Writes (d.positional pointZero) := by
  unfold Decimal.positional
  simp only
  split
  next h => exact writes_whole h hz pointZero
  next h =>
    have hn : d.digits ≠ 0 := fun hn => h (Int.le_of_eq (hz hn).symm)
    have hd : ∀ c ∈ digitChars d.digits, isDigit c := fun c hc => isDigit_of_mem_digitChars hc
    have hv := digitsValue_digitChars d.digits
    have hh := head_digitChars hn
    have hpos := List.length_pos_iff.mpr (digitChars_ne_nil d.digits)
    generalize digitChars d.digits = digits at hd hv hh hpos ⊢
    rcases Nat.lt_or_ge (-d.exponent).toNat digits.length with hlt | hle
    · have h0 : (-d.exponent).toNat + 1 - digits.length = 0 := by omega
      have hi : 0 < digits.length - (-d.exponent).toNat := by omega
      rw [h0, List.replicate_zero, List.nil_append]
      have hw := writes_parts hd hv hi (by omega) (.inr (by rwa [head?_take_of_pos hi])) .nil
        (by rw [List.length_drop]; omega)
      rwa [List.append_nil] at hw
    · obtain ⟨n, hn⟩ : ∃ n, (-d.exponent).toNat + 1 - digits.length = n + 1 :=
        Nat.exists_eq_add_one_of_ne_zero (by omega)
      have hd' : ∀ c ∈ List.replicate (n + 1) '0' ++ digits, isDigit c := by
        intro c hc
        rcases List.mem_append.mp hc with hc | hc
        · exact isDigit_of_mem_zeros hc
        · exact hd c hc
      have hl : (List.replicate (n + 1) '0' ++ digits).length = (-d.exponent).toNat + 1 := by
        rw [List.length_append, List.length_replicate]
        omega
      have hi : (List.replicate (n + 1) '0' ++ digits).length - (-d.exponent).toNat = 1 := by omega
      rw [hn, hi]
      have hw := writes_parts hd' ((digitsValue_zeros_append (n + 1) digits).trans hv) Nat.one_pos
        (by omega) (.inl rfl) .nil (by rw [List.length_drop]; omega)
      rwa [List.append_nil] at hw

theorem writes_withExponent (d : Decimal) : d.Writes d.withExponent := by
  unfold Decimal.withExponent
  simp only
  have ht := IsExponent.signed d.leading
  have hd : ∀ c ∈ digitChars d.digits, isDigit c := fun c hc => isDigit_of_mem_digitChars hc
  have hv := digitsValue_digitChars d.digits
  have hl : d.leading = d.exponent + (digitChars d.digits).length - 1 := by
    rw [length_digitChars, Decimal.leading]
  have hh := leading_digitChars d.digits
  obtain ⟨c, cs, hc⟩ := List.exists_cons_of_ne_nil (digitChars_ne_nil d.digits)
  rw [hc] at hd hv hl hh ⊢
  have hh' : [c] = ['0'] ∨ [c].head? ≠ some '0' := by
    by_cases h0 : c = '0'
    · exact .inl (by rw [h0])
    · exact .inr (by simpa using h0)
  by_cases h : cs = []
  · subst h
    refine ⟨[c], [], _, _, ⟨hd, List.cons_ne_nil _ _, hh', ht, ?_⟩, by simp⟩
    rw [List.append_nil, hv, hl, Decimal.value]
    simp
  · have hpos := List.length_pos_iff.mpr h
    have hne : (c :: cs).length ≠ 1 := by
      rw [List.length_cons]
      omega
    rw [if_neg hne, List.append_assoc, List.cons_append]
    refine writes_parts hd hv Nat.one_pos ?_ hh' ht ?_
    · rw [List.length_cons]
      omega
    · rw [hl, List.length_drop, List.length_cons]
      omega

/-! ## Doubles -/

theorem isNaN_of_isFinite {x : Float} (hx : x.isFinite) : x.isNaN = false := by
  change x.toModel.unpack.isFinite = true at hx
  change x.toModel.unpack.isNaN = false
  cases h : x.toModel.unpack with
  | notANumber => rw [h] at hx; cases hx
  | _ => rfl

theorem exponent_shortest {x : Float} (hx : x.isFinite) (tie : Tie) :
    ((Dyadic.ofFloat x).shortest tie).digits = 0 →
      ((Dyadic.ofFloat x).shortest tie).exponent = 0 := by
  intro h0
  rcases exists_of_isFinite hx with ⟨sign, -, hm, -⟩ | ⟨sign, m, e, h, -, -, hd, -⟩
  · rw [Dyadic.shortest, if_pos hm]
  · rw [hd] at h0
    have hle := (roundsTo_shortest h tie).two_zpow_le
    rw [Decimal.value, h0, Nat.cast_zero, zero_mul] at hle
    exact absurd hle (not_le.mpr (two_zpow_pos (-1075)))

/-- The text of a finite double writes its shortest decimal, behind a minus sign if it has one. -/
theorem exists_writes_render (l : Layout) {x : Float} (hx : x.isFinite) :
    ∃ text, (l.render x).toList = (if isNegative x then ['-'] else []) ++ text ∧
      ((Dyadic.ofFloat x).shortest l.tie).Writes text := by
  have hw : ∀ positional : Bool, ((Dyadic.ofFloat x).shortest l.tie).Writes
      (if positional then ((Dyadic.ofFloat x).shortest l.tie).positional l.pointZero
        else ((Dyadic.ofFloat x).shortest l.tie).withExponent) := by
    intro positional
    split
    · exact writes_positional _ (exponent_shortest hx l.tie) _
    · exact writes_withExponent _
  unfold Layout.render
  simp only [isNaN_of_isFinite hx, hx, Bool.false_eq_true, Bool.not_true, if_false]
  exact ⟨_, by rw [String.toList_ofList], hw _⟩

end Spreadsheet.Numeric
