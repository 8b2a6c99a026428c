import Spreadsheet.Proofs.Numeric.Packing

/-!
# Numbers in scientific notation

`Float.ofScientific n _ _` is the double nearest to `n · 10 ^ k`: whatever rounds to a double is
read as it (`ofScientific_eq`). Small numbers are read by one exact multiplication or division of
doubles, the others by one of numbers of any size; both come down to rounding a product or a
quotient once.
-/

namespace Spreadsheet.Numeric

open Float.Model Float.Model.UnpackedFloat

variable {w : ℚ} {m n d : Nat} {e : Int} {sign sign' : Sign}

/-! ## Products and quotients -/

theorem holds_exact (n : Nat) : Holds (extended n .exact) n :=
  ⟨by simp [extended, ExtendedMantissa.ofMantissaAndAccuracy],
    by simp [extended, ExtendedMantissa.ofMantissaAndAccuracy],
    by simp [extended, ExtendedMantissa.ofMantissaAndAccuracy]⟩

/-- The accuracy of a quotient says what is left over. -/
theorem holds_quotient (n : Nat) (hd : 0 < d) :
    Holds (extended (n / d) (accuracyOfFraction (n % d) d)) (n / d : ℚ) := by
  have hd' : (0 : ℚ) < d := by exact_mod_cast hd
  have hn : (n : ℚ) = d * (n / d : Nat) + (n % d : Nat) := by
    exact_mod_cast (Nat.div_add_mod n d).symm
  have hx : (n / d : ℚ) = (n / d : Nat) + (n % d : Nat) / d := by
    rw [hn]
    field_simp
  have hlt : ((n % d : Nat) : ℚ) / d < 1 := (div_lt_one hd').mpr (by exact_mod_cast Nat.mod_lt n hd)
  generalize n / d = q at hx
  generalize n % d = r at hx hlt
  rw [hx]
  unfold accuracyOfFraction
  by_cases hz : r = 0
  · rw [if_pos hz, hz]
    simpa using holds_exact q
  · have hpos : (0 : ℚ) < r / d := div_pos (by exact_mod_cast Nat.pos_of_ne_zero hz) hd'
    rw [if_neg hz]
    rcases Nat.lt_trichotomy (2 * r) d with h | h | h
    · have hr : (r : ℚ) / d < 1 / 2 := by
        rw [div_lt_div_iff₀ hd' (by norm_num)]
        have : (2 * r : ℚ) < d := by exact_mod_cast h
        linarith
      rw [Nat.compare_eq_lt.mpr h]
      refine ⟨?_, ?_, ?_⟩ <;> simp only [extended, ExtendedMantissa.ofMantissaAndAccuracy,
        Bool.toNat_false, Nat.cast_zero, Bool.true_eq_false, false_iff]
      · linarith
      · linarith
      · intro hc
        linarith
    · have hr : (r : ℚ) / d = 1 / 2 := by
        rw [div_eq_div_iff hd'.ne' (by norm_num)]
        have : (2 * r : ℚ) = d := by exact_mod_cast h
        linarith
      rw [Nat.compare_eq_eq.mpr h, hr]
      refine ⟨?_, ?_, ?_⟩ <;> simp only [extended, ExtendedMantissa.ofMantissaAndAccuracy,
        Bool.toNat_true, Nat.cast_one, true_iff]
      · linarith
      · linarith
      · ring
    · have hr : 1 / 2 < (r : ℚ) / d := by
        rw [div_lt_div_iff₀ (by norm_num) hd']
        have : (d : ℚ) < 2 * r := by exact_mod_cast h
        linarith
      rw [Nat.compare_eq_gt.mpr h]
      refine ⟨?_, ?_, ?_⟩ <;> simp only [extended, ExtendedMantissa.ofMantissaAndAccuracy,
        Bool.toNat_true, Nat.cast_one, Bool.true_eq_false, false_iff]
      · linarith
      · linarith
      · intro hc
        linarith

/-- The product of two finite numbers, one of them with a long mantissa. -/
theorem mul_eq {a b : Nat} {ea eb : Int} (ha : 0 < a) (hb : 0 < b)
    (h : RoundsTo (a * 2 ^ ea * (b * 2 ^ eb)) m e) (hlong : 2 ^ 52 ≤ a) :
    UnpackedFloat.mul .binary64 (.finite sign a ea ha) (.finite sign' b eb hb) =
      .finite (sign * sign') m e h.canonical.pos := by
  have hl : 52 ≤ (a * b).log2 :=
    (Nat.le_log2 (Nat.mul_pos ha hb).ne').mpr (Nat.le_trans hlong (Nat.le_mul_of_pos_right a hb))
  refine h.roundWithAccuracy_eq (sign * sign') (by omega) ?_
  have hx : (a * 2 ^ ea * (b * 2 ^ eb) : ℚ) / 2 ^ (ea + eb) = (a * b : Nat) := by
    rw [zpow_add₀ (by norm_num), Nat.cast_mul]
    field_simp
  rw [hx]
  exact holds_exact (a * b)

theorem div_eq {a b : Nat} {ea eb : Int} (ha : 0 < a) (hb : 0 < b)
    (h : RoundsTo (a * 2 ^ ea / (b * 2 ^ eb)) m e) :
    UnpackedFloat.div .binary64 (.finite sign a ea ha) (.finite sign' b eb hb) =
      .finite (sign / sign') m e h.canonical.pos := by
  have ht : Format.binary64.targetExponent (totalExponent a ea - totalExponent b eb) =
      max (a.log2 + 1 + ea - (b.log2 + 1 + eb) - 53) (-1074) := rfl
  generalize hT : min (ea - eb) (max ((a.log2 : Int) + 1 + ea - (b.log2 + 1 + eb) - 53) (-1074)) = t
  have hdiv : UnpackedFloat.div .binary64 (.finite sign a ea ha) (.finite sign' b eb hb) =
      roundWithAccuracy .binary64 (sign / sign') ((a <<< (ea - eb - t).toNat) / b) t
        (accuracyOfFraction ((a <<< (ea - eb - t).toNat) % b) b) := by
    simp only [UnpackedFloat.div, divCore, ht, hT]
  have hs : ((ea - eb - t).toNat : Int) = ea - eb - t := by omega
  rw [hdiv]
  generalize (ea - eb - t).toNat = s at hs
  refine h.roundWithAccuracy_eq (sign / sign') ?_ ?_
  · -- The quotient has enough bits, unless the units are the least there are.
    rcases le_or_gt t (-1074) with hle | hgt
    · omega
    · have hsl : b.log2 + 53 ≤ a.log2 + s := by omega
      have hq : 2 ^ 52 ≤ (a <<< s) / b := by
        rw [Nat.shiftLeft_eq, Nat.le_div_iff_mul_le hb]
        calc 2 ^ 52 * b ≤ 2 ^ 52 * 2 ^ (b.log2 + 1) :=
              Nat.mul_le_mul_left _ (Nat.le_of_lt Nat.lt_log2_self)
          _ = 2 ^ (b.log2 + 53) := by rw [← Nat.pow_add]; congr 1; omega
          _ ≤ 2 ^ (a.log2 + s) := Nat.pow_le_pow_right (by norm_num) hsl
          _ = 2 ^ a.log2 * 2 ^ s := Nat.pow_add ..
          _ ≤ a * 2 ^ s := Nat.mul_le_mul_right _ (Nat.log2_self_le ha.ne')
      have := (Nat.le_log2 (by omega)).mpr hq
      omega
  · have hx : (a * 2 ^ ea / (b * 2 ^ eb) : ℚ) / 2 ^ t = ((a <<< s : Nat) : ℚ) / b := by
      rw [Nat.shiftLeft_eq, Nat.cast_mul, Nat.cast_pow, Nat.cast_ofNat, ← zpow_natCast, hs,
        zpow_sub₀ (by norm_num), zpow_sub₀ (by norm_num)]
      field_simp
    rw [hx]
    exact holds_quotient _ hb

/-! ## Whole numbers below the power 53 of two -/

/-- A double rounds to itself. -/
theorem RoundsTo.self (h : Canonical m e) : RoundsTo (m * 2 ^ e) m e := by
  have hu := two_zpow_pos e
  have hg : (0 : ℚ) < if m = 2 ^ 52 ∧ -1074 < e then 1 / 4 else 1 / 2 := by split <;> norm_num
  refine ⟨h, ?_, ?_, .inr ⟨?_, ?_⟩⟩
  · exact mul_le_mul_of_nonneg_right (by linarith) hu.le
  · exact mul_le_mul_of_nonneg_right (by linarith) hu.le
  · exact mul_lt_mul_of_pos_right (by linarith) hu
  · exact mul_lt_mul_of_pos_right (by linarith) hu

theorem zpow_eq_div {b : ℚ} (hb : b ≠ 0) (e : Int) : b ^ e = b ^ e.toNat / b ^ (-e).toNat := by
  rw [← zpow_natCast, ← zpow_natCast, ← zpow_sub₀ hb]
  congr 1
  omega

/-- The mantissa of a whole number is as long as it can be. -/
theorem canonical_of_lt (hn : 0 < n) (hlt : n < 2 ^ 53) :
    Canonical (n <<< (52 - n.log2)) ((n.log2 : Int) - 52) := by
  have hl : n.log2 < 53 := (Nat.log2_lt hn.ne').mpr hlt
  have h₁ : 2 ^ 52 ≤ n <<< (52 - n.log2) := by
    rw [Nat.shiftLeft_eq]
    calc 2 ^ 52 = 2 ^ n.log2 * 2 ^ (52 - n.log2) := by rw [← Nat.pow_add]; congr 1; omega
      _ ≤ n * 2 ^ (52 - n.log2) := Nat.mul_le_mul_right _ (Nat.log2_self_le hn.ne')
  have h₂ : n <<< (52 - n.log2) < 2 ^ 53 := by
    rw [Nat.shiftLeft_eq]
    calc n * 2 ^ (52 - n.log2) < 2 ^ (n.log2 + 1) * 2 ^ (52 - n.log2) :=
          Nat.mul_lt_mul_of_pos_right Nat.lt_log2_self (by positivity)
      _ = 2 ^ 53 := by rw [← Nat.pow_add]; congr 1; omega
  exact ⟨by omega, h₂, by omega, .inl h₁⟩

/-- A whole number as a double. -/
theorem toFloat_eq (hn : 0 < n) (hlt : n < 2 ^ 53) :
    n.toUInt64.toFloat = double .positive (canonical_of_lt hn hlt) := by
  have hl : n.log2 < 53 := (Nat.log2_lt hn.ne').mpr hlt
  have hu : n.toUInt64.toFloat =
      Float.ofModel (.pack (UnpackedFloat.normalize .binary64 n.toUInt64.toNat 0 .positive)) := rfl
  have hm : n.toUInt64.toNat = n := by
    rw [Nat.toUInt64_eq, UInt64.toNat_ofNat']
    exact Nat.mod_eq_of_lt (by omega)
  have hc : compare (n : Int) 0 = .gt := by
    rw [Int.compare_eq_gt]
    omega
  have ht : (0 - ((n.log2 : Int) - 52)).toNat = 52 - n.log2 := by omega
  have he : (0 : Int) - (52 - n.log2 : Nat) = n.log2 - 52 := by omega
  have htarget : max ((n.log2 : Int) + 1 + 0 - 53) (-1074) = n.log2 - 52 := by omega
  have hr : UnpackedFloat.round .binary64 .positive n 0 = roundWithAccuracy .binary64 .positive
      (n <<< (52 - n.log2)) (n.log2 - 52) .exact := by
    simp only [UnpackedFloat.round, targetExponent_eq, htarget, decreaseExponent, ht, he]
  have hself := (RoundsTo.self (canonical_of_lt hn hlt))
  rw [hu, hm, UnpackedFloat.normalize, hc]
  simp only [Int.toNat_natCast, hr]
  have hle := Int.le_of_eq (canonical_of_lt hn hlt).targetExponent_eq.symm
  rw [hself.roundWithAccuracy_eq .positive hle]
  · rfl
  · rw [mul_div_assoc, div_self (two_zpow_pos _).ne', mul_one]
    exact holds_exact _

theorem value_canonical_of_lt (hn : 0 < n) (hlt : n < 2 ^ 53) :
    ((n <<< (52 - n.log2) : Nat) : ℚ) * 2 ^ ((n.log2 : Int) - 52) = n := by
  have hl : n.log2 < 53 := (Nat.log2_lt hn.ne').mpr hlt
  rw [Nat.shiftLeft_eq, Nat.cast_mul, Nat.cast_pow, Nat.cast_ofNat, ← zpow_natCast, mul_assoc,
    ← zpow_add₀ (by norm_num)]
  have : ((52 - n.log2 : Nat) : Int) + (n.log2 - 52) = 0 := by omega
  rw [this, zpow_zero, mul_one]

/-- Whether a number is a power of ten with a long mantissa. -/
def isPowerOfTen (j : Nat) : UnpackedFloat → Bool
  | .finite .positive a ea _ => 2 ^ 52 ≤ a && a * 2 ^ ea.toNat = 10 ^ j * 2 ^ (-ea).toNat
  | _ => false

theorem unpack_powerOfTen (j : Fin 23) : ∃ (a : Nat) (ea : Int) (ha : 0 < a),
    (Float.exactlyRepresentablePowersOfTen[j]).toModel.unpack = .finite .positive a ea ha ∧
      2 ^ 52 ≤ a ∧ (a * 2 ^ ea : ℚ) = 10 ^ (j : Nat) := by
  have table : ∀ j : Fin 23,
      isPowerOfTen j (Float.exactlyRepresentablePowersOfTen[j]).toModel.unpack := by
    decide +kernel
  have h := table j
  unfold isPowerOfTen at h
  split at h
  · rename_i a ea ha hu
    simp only [Bool.and_eq_true, decide_eq_true_eq] at h
    refine ⟨a, ea, ha, hu, h.1, ?_⟩
    have hq : (a : ℚ) * 2 ^ ea.toNat = 10 ^ (j : Nat) * 2 ^ (-ea).toNat := by exact_mod_cast h.2
    rw [zpow_eq_div (by norm_num), mul_div_assoc', hq, mul_div_assoc, div_self (by positivity),
      mul_one]
  · cases h

/-! ## Numbers in scientific notation -/

/-- What rounds to a finite double is less than the power 1024 of two. -/
theorem RoundsTo.lt_two_zpow (h : RoundsTo w m e) (he : e ≤ 971) : w < 2 ^ (1024 : Int) := by
  refine lt_of_lt_of_le h.lt ?_
  rw [← zpow_natCast, ← zpow_add₀ (by norm_num)]
  refine zpow_le_zpow_right₀ (by norm_num) ?_
  push_cast
  omega

/-- What rounds to a double is at least half the least one. -/
theorem RoundsTo.two_zpow_le (h : RoundsTo w m e) : 2 ^ (-1075 : Int) ≤ w := by
  have hm : (1 : ℚ) ≤ m := by exact_mod_cast h.canonical.pos
  have he := zpow_le_zpow_right₀ (by norm_num : (1 : ℚ) ≤ 2) h.canonical.least
  have hs := two_zpow_succ (-1075)
  have := h.sub_half_le
  norm_num only at hs
  nlinarith [two_zpow_pos e]

theorem two_zpow_le_ten_zpow {k : Int} (hk : 0 ≤ k) : (2 : ℚ) ^ k ≤ 10 ^ k := by
  obtain ⟨j, rfl⟩ := Int.eq_ofNat_of_zero_le hk
  rw [zpow_natCast, zpow_natCast]
  exact pow_le_pow_left₀ (by norm_num) (by norm_num) j

theorem ten_zpow_le_two_zpow {k : Int} (hk : k ≤ 0) : (10 : ℚ) ^ k ≤ 2 ^ k := by
  have h := two_zpow_le_ten_zpow (Int.neg_nonneg_of_nonpos hk)
  rw [zpow_neg, zpow_neg] at h
  exact (inv_le_inv₀ (two_zpow_pos k) (zpow_pos (by norm_num) k)).mp h

/-- The power of ten of a number that rounds to a finite double is not huge. -/
theorem RoundsTo.exponent_le {k : Int} (hn : 0 < n) (h : RoundsTo (n * 10 ^ k) m e)
    (he : e ≤ 971) : k ≤ 1024 := by
  by_contra hk
  have hlt := h.lt_two_zpow he
  have h₁ := two_zpow_le_ten_zpow (by omega : 0 ≤ k)
  have h₂ := zpow_le_zpow_right₀ (by norm_num : (1 : ℚ) ≤ 2) (by omega : 1024 ≤ k)
  have h₃ : (10 : ℚ) ^ k ≤ n * 10 ^ k :=
    le_mul_of_one_le_left (by positivity) (by exact_mod_cast hn)
  linarith

/-- Nor is it tiny beyond what the other factor makes up for. -/
theorem RoundsTo.le_exponent {k : Int} (h : RoundsTo (n * 10 ^ k) m e) :
    -1075 ≤ k + n.log2 + 1 := by
  by_contra hk
  have hle := h.two_zpow_le
  have hn : (n : ℚ) < 2 ^ (n.log2 + 1) := by exact_mod_cast Nat.lt_log2_self
  have h₁ := ten_zpow_le_two_zpow (by omega : k ≤ 0)
  have h₂ : (n : ℚ) * 10 ^ k ≤ 2 ^ (n.log2 + 1) * 2 ^ k :=
    mul_le_mul hn.le h₁ (by positivity) (by positivity)
  rw [← zpow_natCast, ← zpow_add₀ (by norm_num)] at h₂
  have h₃ := zpow_lt_zpow_right₀ (by norm_num : (1 : ℚ) < 2)
    (by push_cast; omega : ((n.log2 + 1 : Nat) : Int) + k < -1075)
  linarith

theorem unpackedOfScientific_eq {k : Int} (hn : 0 < n) (h : RoundsTo (n * 10 ^ k) m e)
    (he : e ≤ 971) :
    UnpackedFloat.ofScientific .binary64 n k = .finite .positive m e h.canonical.pos := by
  have h₁ := h.exponent_le hn he
  have h₂ := h.le_exponent
  unfold UnpackedFloat.ofScientific
  rw [dif_neg hn.ne', if_neg (by norm_num; omega), if_neg (by norm_num; omega)]
  split
  · rename_i hk
    have hw : (n * 10 ^ k : ℚ) =
        (n <<< 53 : Nat) * 2 ^ (-53 : Int) * ((10 ^ k.toNat : Nat) * 2 ^ (0 : Int)) := by
      rw [Nat.shiftLeft_eq, zpow_eq_div (by norm_num : (10 : ℚ) ≠ 0),
        Int.toNat_eq_zero.mpr (by omega : -k ≤ 0)]
      push_cast
      rw [zpow_neg]
      norm_num
      ring
    rw [hw] at h
    refine mul_eq _ _ h ?_
    rw [Nat.shiftLeft_eq]
    omega
  · rename_i hk
    have hw : (n * 10 ^ k : ℚ) =
        n * 2 ^ (0 : Int) / ((10 ^ (-k).toNat : Nat) * 2 ^ (0 : Int)) := by
      rw [zpow_eq_div (by norm_num : (10 : ℚ) ≠ 0), Int.toNat_eq_zero.mpr (by omega : k ≤ 0)]
      push_cast
      norm_num
      rfl
    rw [hw] at h
    exact div_eq _ _ h

/-- Whatever rounds to a double is read as that double. -/
theorem ofScientific_eq {k : Int} (hn : 0 < n) (h : RoundsTo (n * 10 ^ k) m e) (he : e ≤ 971) :
    Float.ofScientific n (k < 0) k.natAbs = double .positive h.canonical := by
  unfold Float.ofScientific
  by_cases hfast : n < 2 ^ 53 ∧ k.natAbs ≤ 22
  · have hl : n.log2 < 53 := (Nat.log2_lt hn.ne').mpr hfast.1
    have hx : n.toUInt64.toFloat.toModel.unpack = .finite .positive (n <<< (52 - n.log2))
        (n.log2 - 52) (canonical_of_lt hn hfast.1).pos := by
      rw [toFloat_eq hn hfast.1]
      exact unpack_double (canonical_of_lt hn hfast.1) (by omega)
    have hv := value_canonical_of_lt hn hfast.1
    obtain ⟨b, eb, hb, hu, -, hbv⟩ := unpack_powerOfTen ⟨k.natAbs, by omega⟩
    change (b : ℚ) * 2 ^ eb = 10 ^ k.natAbs at hbv
    rw [dif_pos hfast]
    by_cases hk : k < 0
    · have hw : (n * 10 ^ k : ℚ) = (n <<< (52 - n.log2) : Nat) * 2 ^ ((n.log2 : Int) - 52) /
          (b * 2 ^ eb) := by
        rw [hv, hbv, div_eq_mul_inv, ← zpow_natCast, ← zpow_neg]
        congr 2
        omega
      rw [hw] at h
      rw [if_pos (decide_eq_true hk)]
      refine congrArg (fun u => Float.ofModel (.pack u)) ?_
      exact (congr (congrArg (UnpackedFloat.div .binary64) hx) hu).trans (div_eq _ hb h)
    · have hw : (n * 10 ^ k : ℚ) = (n <<< (52 - n.log2) : Nat) * 2 ^ ((n.log2 : Int) - 52) *
          (b * 2 ^ eb) := by
        rw [hv, hbv, ← zpow_natCast]
        congr 2
        omega
      rw [hw] at h
      rw [if_neg (by simpa using hk)]
      refine congrArg (fun u => Float.ofModel (.pack u)) ?_
      refine (congr (congrArg (UnpackedFloat.mul .binary64) hx) hu).trans (mul_eq _ hb h ?_)
      have := (canonical_of_lt hn hfast.1).normal
      omega
  · have hk : (if decide (k < 0) then Int.negOfNat k.natAbs else Int.ofNat k.natAbs) = k := by
      cases k with
      | ofNat j => simp
      | negSucc j => simp [Int.negOfNat]
    rw [dif_neg hfast]
    simp only [hk]
    rw [Float.Model.ofScientific, unpackedOfScientific_eq hn h he]
    rfl

end Spreadsheet.Numeric
