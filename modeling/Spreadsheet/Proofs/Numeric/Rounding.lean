import Mathlib

/-!
# What rounds to a double

A positive finite double is `m · 2 ^ e` in one canonical way. `RoundsTo w m e` says that the
rational number `w` lies in the interval of what rounds to it: up to half a unit of its last place
away, a quarter below where the gap to the double below is narrower, the ends only for even `m`.
Rounding with any representation of `w` then gives `m · 2 ^ e` (`RoundsTo.roundWithAccuracy_eq`).

Rounding works on a mantissa with two more bits. `Holds em x` says what they hold of the number
`x`, in units of the last place; shifting halves `x`, and the rounded mantissa is the number nearest
to `x`. What is left is to see which power of two the units are (`IsExponentOf`): it is that of the
double, or the one below if `w` is just below a power of two.
-/

namespace Spreadsheet.Numeric

open Float.Model Float.Model.UnpackedFloat

/-! ## Mantissas with two more bits -/

/-- What an extended mantissa holds of a number: its whole part, whether a half is left, and whether
anything is left beyond that. -/
structure Holds (em : ExtendedMantissa) (x : ℚ) : Prop where
  lower : 2 * em.mantissa + em.roundBit.toNat ≤ 2 * x
  upper : 2 * x < 2 * em.mantissa + em.roundBit.toNat + 1
  sticky : em.stickyBit = false ↔ 2 * x = 2 * em.mantissa + em.roundBit.toNat

/-- Whether a whole number is the nearest to `x`, the even one of two. -/
def IsNearest (x : ℚ) (n : Nat) : Prop := |x - n| < 1 / 2 ∨ |x - n| = 1 / 2 ∧ n % 2 = 0

variable {em : ExtendedMantissa} {x w : ℚ} {m n : Nat} {e : Int}

theorem IsNearest.unique (hm : IsNearest x m) (hn : IsNearest x n) : m = n := by
  have near : ∀ {k : Nat}, IsNearest x k → (k - 1 / 2 ≤ x ∧ x ≤ k + 1 / 2) ∧
      (k % 2 = 0 ∨ k - 1 / 2 < x ∧ x < k + 1 / 2) := by
    intro k hk
    rcases hk with hk | ⟨hk, hk'⟩
    · obtain ⟨h₁, h₂⟩ := abs_lt.mp hk
      exact ⟨⟨by linarith, by linarith⟩, .inr ⟨by linarith, by linarith⟩⟩
    · obtain ⟨h₁, h₂⟩ := abs_le.mp (le_of_eq hk)
      exact ⟨⟨by linarith, by linarith⟩, .inl hk'⟩
  obtain ⟨⟨hm₁, hm₂⟩, hm⟩ := near hm
  obtain ⟨⟨hn₁, hn₂⟩, hn⟩ := near hn
  have hmn : (m : ℚ) ≤ n + 1 := by linarith
  have hnm : (n : ℚ) ≤ m + 1 := by linarith
  have hmn' : m ≤ n + 1 := by exact_mod_cast hmn
  have hnm' : n ≤ m + 1 := by exact_mod_cast hnm
  -- Neighbours cannot both be even, nor can both be nearer than half.
  rcases Nat.lt_trichotomy m n with h | h | h
  · obtain rfl : n = m + 1 := by omega
    push_cast at hn₁ hn
    rcases hm with hm | hm
    · rcases hn with hn | hn
      · omega
      · linarith
    · linarith
  · exact h
  · obtain rfl : m = n + 1 := by omega
    push_cast at hm₁ hm
    rcases hn with hn | hn
    · rcases hm with hm | hm
      · omega
      · linarith
    · linarith

/-- A shift by one place halves the number. -/
theorem Holds.shiftRightOne (h : Holds em x) : Holds em.shiftRightOne (x / 2) := by
  obtain ⟨k, r, s⟩ := em
  obtain ⟨hl, hu, hs⟩ := h
  have hk : (k : ℚ) = 2 * (k / 2 : Nat) + (k % 2 : Nat) := by
    exact_mod_cast (Nat.div_add_mod k 2).symm
  have hb : ((k % 2 != 0).toNat : ℚ) = (k % 2 : Nat) := by
    rcases Nat.mod_two_eq_zero_or_one k with h | h <;> simp [h]
  simp only [ExtendedMantissa.shiftRightOne] at hl hu hs ⊢
  refine ⟨?_, ?_, ?_⟩
  · simp only [hb]
    cases r <;> simp at hl <;> linarith
  · simp only [hb]
    cases r <;> simp at hu <;> linarith
  · simp only [hb]
    have hx : 2 * (x / 2) = x := by ring
    rw [hx, ← hk, Bool.or_eq_false_iff, hs]
    cases r
    · simp
    · simp only [Bool.toNat_true, Nat.cast_one] at hl
      simp only [Bool.true_eq_false, false_and, false_iff]
      intro h
      linarith

theorem Holds.shiftRight (h : Holds em x) (n : Nat) : Holds (em >>> n) (x / 2 ^ n) := by
  induction n with
  | zero =>
    rw [pow_zero, div_one]
    exact h
  | succ n ih =>
    rw [pow_succ, ← div_div]
    exact ih.shiftRightOne

theorem Holds.isNearest (h : Holds em x) : IsNearest x em.roundedMantissa := by
  obtain ⟨k, r, s⟩ := em
  obtain ⟨hl, hu, hs⟩ := h
  unfold IsNearest
  cases r
  · -- Less than a half is left.
    simp only [Bool.toNat_false, Nat.cast_zero, add_zero] at hl hu hs
    have hr : ExtendedMantissa.roundedMantissa ⟨k, false, s⟩ = k := by cases s <;> rfl
    rw [hr]
    left
    rw [abs_lt]
    constructor <;> linarith
  · simp only [Bool.toNat_true, Nat.cast_one] at hl hu hs
    cases s
    · -- A half is left: the even neighbour is taken.
      have hx := hs.mp rfl
      have hr : ExtendedMantissa.roundedMantissa ⟨k, true, false⟩ = k + k % 2 := rfl
      rw [hr]
      right
      rcases Nat.mod_two_eq_zero_or_one k with hk | hk
      · rw [hk, Nat.add_zero]
        refine ⟨?_, hk⟩
        rw [abs_of_nonneg] <;> linarith
      · rw [hk]
        refine ⟨?_, by omega⟩
        push_cast
        rw [abs_of_nonpos] <;> linarith
    · -- More than a half is left.
      have hr : ExtendedMantissa.roundedMantissa ⟨k, true, true⟩ = k + 1 := rfl
      have hne : 2 * x ≠ 2 * k + 1 := fun h => absurd (hs.mpr h) (by simp)
      have hlt : 2 * (k : ℚ) + 1 < 2 * x := lt_of_le_of_ne hl hne.symm
      rw [hr]
      left
      push_cast
      rw [abs_lt]
      constructor <;> linarith

/-! ## The units of a number -/

/-- Whether doubles near `w` are multiples of `2 ^ e`. -/
structure IsExponentOf (w : ℚ) (e : Int) : Prop where
  least : -1074 ≤ e
  upper : w < 2 ^ 53 * (2 : ℚ) ^ e
  lower : e = -1074 ∨ 2 ^ 52 * (2 : ℚ) ^ e ≤ w

/-- Whether `m · 2 ^ e` is the form in which a double is held. -/
structure Canonical (m : Nat) (e : Int) : Prop where
  pos : 0 < m
  lt : m < 2 ^ 53
  least : -1074 ≤ e
  normal : 2 ^ 52 ≤ m ∨ e = -1074

/-- Whether a number rounds to `m · 2 ^ e`. -/
structure RoundsTo (w : ℚ) (m : Nat) (e : Int) : Prop where
  canonical : Canonical m e
  lower : (m - if m = 2 ^ 52 ∧ -1074 < e then 1 / 4 else 1 / 2) * (2 : ℚ) ^ e ≤ w
  upper : w ≤ (m + 1 / 2) * (2 : ℚ) ^ e
  interior : m % 2 = 0 ∨
    (m - if m = 2 ^ 52 ∧ -1074 < e then 1 / 4 else 1 / 2) * (2 : ℚ) ^ e < w ∧
      w < (m + 1 / 2) * (2 : ℚ) ^ e

theorem two_zpow_pos (e : Int) : (0 : ℚ) < 2 ^ e := zpow_pos (by norm_num) e

theorem two_zpow_succ (e : Int) : (2 : ℚ) ^ (e + 1) = 2 * 2 ^ e := by
  rw [zpow_add_one₀ (by norm_num), mul_comm]

/-- The gap below a double is at most half a unit. -/
theorem gap_le (m : Nat) (e : Int) :
    (if m = 2 ^ 52 ∧ -1074 < e then 1 / 4 else 1 / 2 : ℚ) ≤ 1 / 2 := by
  split <;> norm_num

/-- With the units of the double itself, the double is nearest. -/
theorem RoundsTo.isNearest (h : RoundsTo w m e) : IsNearest (w / 2 ^ e) m := by
  have hu := two_zpow_pos e
  have hg := gap_le m e
  have hl := (le_div_iff₀ hu).mpr h.lower
  have hr := (div_le_iff₀ hu).mpr h.upper
  unfold IsNearest
  rcases h.interior with hm | ⟨hl', hr'⟩
  · have hle : |w / 2 ^ e - m| ≤ 1 / 2 := abs_le.mpr ⟨by linarith, by linarith⟩
    rcases lt_or_eq_of_le hle with hlt | heq
    · exact .inl hlt
    · exact .inr ⟨heq, hm⟩
  · have hl' := (lt_div_iff₀ hu).mpr hl'
    have hr' := (div_lt_iff₀ hu).mpr hr'
    exact .inl (abs_lt.mpr ⟨by linarith, by linarith⟩)

/-- What rounds to a double lies below the next power of two. -/
theorem RoundsTo.lt (h : RoundsTo w m e) : w < 2 ^ 53 * (2 : ℚ) ^ e := by
  have hm : (m : ℚ) + 1 ≤ 2 ^ 53 := by exact_mod_cast h.canonical.lt
  have hu := two_zpow_pos e
  refine lt_of_le_of_lt h.upper (mul_lt_mul_of_pos_right ?_ hu)
  linarith

/-- What rounds to a double lies at most half a unit below it. -/
theorem RoundsTo.sub_half_le (h : RoundsTo w m e) : (m - 1 / 2) * (2 : ℚ) ^ e ≤ w := by
  refine le_trans (mul_le_mul_of_nonneg_right ?_ (two_zpow_pos e).le) h.lower
  linarith [gap_le m e]

/-- The units of what rounds to a double are those of the double, or half of them just below a power
of two; then it is that power which is nearest. -/
theorem RoundsTo.isNearest_of_isExponentOf (h : RoundsTo w m e) {k : Int} (hk : IsExponentOf w k) :
    (k = e ∧ IsNearest (w / 2 ^ k) m) ∨
      (k + 1 = e ∧ m = 2 ^ 52 ∧ IsNearest (w / 2 ^ k) (2 ^ 53)) := by
  have hu := two_zpow_pos k
  have hlow := h.sub_half_le
  have hw := hk.upper
  rcases lt_trichotomy k e with hlt | rfl | hgt
  · -- Smaller units: `w` is below the power of two that `m` starts at.
    have hm : 2 ^ 52 ≤ m := by
      rcases h.canonical.normal with hm | he
      · exact hm
      · have := hk.least
        omega
    have hm' : (2 : ℚ) ^ 52 ≤ m := by exact_mod_cast hm
    have he : k + 1 = e := by
      by_contra hne
      have h4 : 4 * (2 : ℚ) ^ k ≤ 2 ^ e := by
        have := zpow_le_zpow_right₀ (by norm_num : (1 : ℚ) ≤ 2) (by omega : k + 1 + 1 ≤ e)
        rw [two_zpow_succ, two_zpow_succ] at this
        linarith
      have := mul_le_mul (by linarith : (2 : ℚ) ^ 52 - 1 / 2 ≤ m - 1 / 2) h4 (by positivity)
        (by linarith)
      nlinarith
    subst he
    have hs := h.lower
    rw [two_zpow_succ] at hlow hs
    have hm₂ : m = 2 ^ 52 := by
      by_contra hne
      have hlt' : 2 ^ 52 + 1 ≤ m := by omega
      have hlt'' : (2 : ℚ) ^ 52 + 1 ≤ m := by exact_mod_cast hlt'
      nlinarith
    have hk' : -1074 < k + 1 := by
      have := hk.least
      omega
    rw [if_pos ⟨hm₂, hk'⟩, hm₂] at hs
    refine .inr ⟨rfl, hm₂, ?_⟩
    have hl : (2 : ℚ) ^ 53 - 1 / 2 ≤ w / 2 ^ k := by
      rw [le_div_iff₀ hu]
      push_cast at hs
      linarith
    have hr : w / 2 ^ k < 2 ^ 53 := (div_lt_iff₀ hu).mpr hw
    unfold IsNearest
    push_cast
    have hle : |w / 2 ^ k - 2 ^ 53| ≤ 1 / 2 := abs_le.mpr ⟨by linarith, by linarith⟩
    rcases lt_or_eq_of_le hle with hlt | heq
    · exact .inl hlt
    · exact .inr ⟨heq, by norm_num⟩
  · exact .inl ⟨rfl, h.isNearest⟩
  · -- Greater units: `w` would be past the power of two that `m` is below.
    exfalso
    have hlow' : (2 : ℚ) ^ 52 * 2 ^ k ≤ w := by
      rcases hk.lower with hk' | hk'
      · have := h.canonical.least
        omega
      · exact hk'
    have h2 : 2 * (2 : ℚ) ^ e ≤ 2 ^ k := by
      have := zpow_le_zpow_right₀ (by norm_num : (1 : ℚ) ≤ 2) (by omega : e + 1 ≤ k)
      rwa [two_zpow_succ] at this
    have := h.lt
    linarith

/-! ## Rounding -/

/-- The units of a number with a given leading bit. -/
theorem targetExponent_eq (m : Nat) (e : Int) :
    Format.binary64.targetExponent (totalExponent m e) = max (m.log2 + 1 + e - 53) (-1074) := by
  rfl

/-- The two bits that an accuracy stands for. -/
abbrev extended (m : Nat) (accuracy : Accuracy) : ExtendedMantissa :=
  .ofMantissaAndAccuracy m accuracy

@[simp] theorem mantissa_extended (m : Nat) (accuracy : Accuracy) :
    (extended m accuracy).mantissa = m := by
  cases accuracy with
  | exact => rfl
  | inexact o => cases o <;> rfl

theorem Holds.bounds (h : Holds em x) : em.mantissa ≤ x ∧ x < em.mantissa + 1 := by
  obtain ⟨hl, hu, -⟩ := h
  cases hr : em.roundBit <;> simp [hr] at hl hu <;> constructor <;> linarith

theorem shiftToTargetExponent_eq {accuracy : Accuracy}
    (he : e ≤ max (m.log2 + 1 + e - 53) (-1074)) (h : Holds (extended m accuracy) (w / 2 ^ e)) :
    ∃ em, shiftToTargetExponent .binary64 m e accuracy =
      (em, max (m.log2 + 1 + e - 53) (-1074)) ∧
        Holds em (w / 2 ^ (max (m.log2 + 1 + e - 53) (-1074))) := by
  generalize ht : max ((m.log2 : Int) + 1 + e - 53) (-1074) = t at he ⊢
  have hs : e + ((t - e).toNat : Int) = t := by omega
  refine ⟨extended m accuracy >>> (t - e).toNat, ?_, ?_⟩
  · simp only [shiftToTargetExponent, shiftToExponent, targetExponent_eq, ht, hs]
  · have hw := h.shiftRight (t - e).toNat
    rwa [div_div, ← zpow_natCast, ← zpow_add₀ (by norm_num), hs] at hw

/-- The exponent that a number is shifted to is that of its units. -/
theorem isExponentOf_of_holds {accuracy : Accuracy}
    (he : e ≤ max (m.log2 + 1 + e - 53) (-1074)) (h : Holds (extended m accuracy) (w / 2 ^ e)) :
    IsExponentOf w (max (m.log2 + 1 + e - 53) (-1074)) := by
  obtain ⟨hl, hu⟩ := h.bounds
  rw [mantissa_extended] at hl hu
  have hp := two_zpow_pos e
  rw [le_div_iff₀ hp] at hl
  rw [div_lt_iff₀ hp] at hu
  have hlt : (m : ℚ) + 1 ≤ 2 ^ (m.log2 + 1) := by exact_mod_cast Nat.lt_log2_self
  have hup : w < 2 ^ ((m.log2 : Int) + 1 + e) := by
    refine lt_of_lt_of_le hu (le_trans (mul_le_mul_of_nonneg_right hlt hp.le) ?_)
    rw [zpow_add₀ (by norm_num)]
    exact_mod_cast le_refl _
  refine ⟨le_max_right _ _, lt_of_lt_of_le hup ?_, ?_⟩
  · rw [← zpow_natCast, ← zpow_add₀ (by norm_num)]
    refine zpow_le_zpow_right₀ (by norm_num) ?_
    push_cast
    omega
  · rcases le_total ((m.log2 : Int) + 1 + e - 53) (-1074) with hle | hle
    · exact .inl (max_eq_right hle)
    · right
      rw [max_eq_left hle] at he ⊢
      have hm : m ≠ 0 := by
        rintro rfl
        simp at he
        omega
      have hle : (2 : ℚ) ^ m.log2 ≤ m := by exact_mod_cast Nat.log2_self_le hm
      refine le_trans (le_of_eq ?_) (le_trans (mul_le_mul_of_nonneg_right hle hp.le) hl)
      rw [← zpow_natCast, ← zpow_natCast, ← zpow_add₀ (by norm_num), ← zpow_add₀ (by norm_num)]
      congr 1
      push_cast
      omega

theorem Canonical.targetExponent_eq (h : Canonical m e) :
    max ((m.log2 : Int) + 1 + e - 53) (-1074) = e := by
  have hl : m.log2 < 53 := (Nat.log2_lt h.pos.ne').mpr h.lt
  have hleast := h.least
  rcases h.normal with hm | he
  · have : 52 ≤ m.log2 := (Nat.le_log2 h.pos.ne').mpr hm
    omega
  · omega

/-- Whatever holds a number that rounds to a double is rounded to that double. -/
theorem RoundsTo.roundWithAccuracy_eq (h : RoundsTo w m e) (sign : Sign) {k : Int}
    {accuracy : Accuracy} (hk : k ≤ max (n.log2 + 1 + k - 53) (-1074))
    (hn : Holds (extended n accuracy) (w / 2 ^ k)) :
    roundWithAccuracy .binary64 sign n k accuracy = .finite sign m e h.canonical.pos := by
  obtain ⟨em, hs, hem⟩ := shiftToTargetExponent_eq hk hn
  have hx := isExponentOf_of_holds hk hn
  generalize max ((n.log2 : Int) + 1 + k - 53) (-1074) = t at hs hem hx
  have second : ∃ em', shiftToTargetExponent .binary64 em.roundedMantissa t .exact = (em', e) ∧
      em'.mantissa = m := by
    rcases h.isNearest_of_isExponentOf hx with ⟨rfl, hm⟩ | ⟨rfl, rfl, hm⟩
    · have hr := hem.isNearest.unique hm
      refine ⟨extended m .exact, ?_, rfl⟩
      simp only [shiftToTargetExponent, shiftToExponent, Numeric.targetExponent_eq, hr,
        h.canonical.targetExponent_eq, Int.sub_self, Int.toNat_zero, Int.natCast_zero, Int.add_zero]
      rfl
    · -- The mantissa became one bit too long.
      have hr := hem.isNearest.unique hm
      have ht : max (((2 ^ 53 : Nat).log2 : Int) + 1 + t - 53) (-1074) = t + 1 := by
        rw [Nat.log2_two_pow]
        have := hx.least
        omega
      have h1 : (t + 1 - t).toNat = 1 := by omega
      refine ⟨(extended (2 ^ 53) .exact).shiftRightOne, ?_, rfl⟩
      simp only [shiftToTargetExponent, shiftToExponent, Numeric.targetExponent_eq, hr, ht, h1]
      rfl
  obtain ⟨em', hs', rfl⟩ := second
  simp only [roundWithAccuracy, hs, hs', h.canonical.pos.ne', dite_false]

end Spreadsheet.Numeric
