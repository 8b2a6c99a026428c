import Spreadsheet.Proofs.Numeric.Scientific

/-!
# Shortest decimals read back

Every decimal that the search for a shortest one considers lies in the interval of what rounds to
the double, the exact value included. So the shortest decimal of a double rounds to it
(`roundsTo_shortest`), whichever one it is.
-/

namespace Spreadsheet.Numeric

variable {m : Nat} {e : Int}

/-- The value of a decimal. -/
def Decimal.value (d : Decimal) : ℚ := d.digits * 10 ^ d.exponent

/-- The absolute value of a double with a given mantissa and exponent, as the search sees it. -/
abbrev dyadic (m : Nat) (e : Int) : Dyadic := ⟨m, e, decide (m = 2 ^ 52 ∧ -1074 < e)⟩

/-! ## The interval -/

theorem low_rounding (h : Canonical m e) :
    ((dyadic m e).rounding.low : ℚ) / (dyadic m e).rounding.denominator =
      (m - if m = 2 ^ 52 ∧ -1074 < e then 1 / 4 else 1 / 2) * (2 : ℚ) ^ e := by
  have hm : 1 ≤ m := h.pos
  have hu : 0 < 2 ^ e.toNat := by positivity
  rw [zpow_eq_div (by norm_num : (2 : ℚ) ≠ 0)]
  simp only [Dyadic.rounding, Nat.pow_eq]
  by_cases hn : m = 2 ^ 52 ∧ -1074 < e
  · rw [if_pos hn, if_pos (decide_eq_true hn), Nat.cast_sub (by nlinarith)]
    push_cast
    field_simp
  · rw [if_neg hn, if_neg (by simpa using hn), Nat.cast_sub (by nlinarith)]
    push_cast
    field_simp
    ring

theorem high_rounding (m : Nat) (e : Int) :
    ((dyadic m e).rounding.high : ℚ) / (dyadic m e).rounding.denominator =
      (m + 1 / 2) * (2 : ℚ) ^ e := by
  rw [zpow_eq_div (by norm_num : (2 : ℚ) ≠ 0)]
  simp only [Dyadic.rounding, Nat.pow_eq]
  push_cast
  field_simp
  ring

theorem denominator_pos (d : Dyadic) : 0 < d.rounding.denominator := by
  simp only [Dyadic.rounding, Nat.pow_eq]
  positivity

/-- What is admitted rounds to the double. -/
theorem roundsTo_of_admits (h : Canonical m e) {c n : Nat} (hc : 0 < c)
    (ha : ((dyadic m e).rounding.scaleBy c).admits n) :
    RoundsTo ((n : ℚ) / ((dyadic m e).rounding.denominator * c)) m e := by
  have hd : (0 : ℚ) < (dyadic m e).rounding.denominator := by
    exact_mod_cast denominator_pos (dyadic m e)
  have hc' : (0 : ℚ) < c := by exact_mod_cast hc
  have hl := low_rounding h
  have hh := high_rounding m e
  have hclosed : ((dyadic m e).rounding.scaleBy c).closed = decide (m % 2 = 0) := rfl
  have hlow : ((dyadic m e).rounding.scaleBy c).low = (dyadic m e).rounding.low * c := rfl
  have hhigh : ((dyadic m e).rounding.scaleBy c).high = (dyadic m e).rounding.high * c := rfl
  rw [Rounding.admits, hclosed, hlow, hhigh] at ha
  generalize (dyadic m e).rounding.low = low at ha hl
  generalize (dyadic m e).rounding.high = high at ha hh
  generalize (dyadic m e).rounding.denominator = den at hd hl hh
  have below : ∀ {x : ℚ}, x / den ≤ n / (den * c) ↔ x * c ≤ n := by
    intro x
    rw [div_le_div_iff₀ hd (mul_pos hd hc')]
    constructor <;> intro hx <;> nlinarith
  have above : ∀ {x : ℚ}, n / (den * c) ≤ x / den ↔ n ≤ x * c := by
    intro x
    rw [div_le_div_iff₀ (mul_pos hd hc') hd]
    constructor <;> intro hx <;> nlinarith
  by_cases hm : m % 2 = 0
  · rw [if_pos (decide_eq_true hm), Bool.and_eq_true, decide_eq_true_eq, decide_eq_true_eq] at ha
    refine ⟨h, ?_, ?_, .inl hm⟩
    · rw [← hl, below]
      exact_mod_cast ha.1
    · rw [← hh, above]
      exact_mod_cast ha.2
  · rw [if_neg (by simpa using hm), Bool.and_eq_true, decide_eq_true_eq, decide_eq_true_eq] at ha
    have h₁ : (low : ℚ) / den < n / (den * c) := by
      rw [lt_iff_not_ge, above, not_le]
      exact_mod_cast ha.1
    have h₂ : (n : ℚ) / (den * c) < high / den := by
      rw [lt_iff_not_ge, below, not_le]
      exact_mod_cast ha.2
    rw [hl] at h₁
    rw [hh] at h₂
    exact ⟨h, h₁.le, h₂.le, .inr ⟨h₁, h₂⟩⟩

/-! ## Candidates -/

/-- A candidate is admitted. -/
theorem admits_onGrid? {r : Rounding} {tie : Tie} {grid : Int} {d : Decimal}
    (h : r.onGrid? tie grid = some d) : d.exponent = grid ∧
      (r.scaleBy (10 ^ (-grid).toNat)).admits (d.digits * (r.denominator * 10 ^ grid.toNat)) := by
  unfold Rounding.onGrid? at h
  simp only [Nat.pow_eq] at h
  generalize r.scaleBy (10 ^ (-grid).toNat) = s at h ⊢
  generalize r.denominator * 10 ^ grid.toNat = step at h ⊢
  cases hb : s.admits (s.value / step * step) <;>
    cases ha : s.admits ((s.value / step + 1) * step) <;>
      simp only [hb, ha, if_true, Bool.false_eq_true, if_false, Option.some.injEq,
        reduceCtorEq] at h
  · exact ⟨h ▸ rfl, h ▸ ha⟩
  · exact ⟨h ▸ rfl, h ▸ hb⟩
  · rcases ite_eq_iff.mp h with ⟨-, h⟩ | ⟨-, h⟩
    · obtain rfl := Option.some.inj h
      exact ⟨rfl, ha⟩
    · obtain rfl := Option.some.inj h
      exact ⟨rfl, hb⟩

theorem value_onGrid? (h : Canonical m e) {tie : Tie} {grid : Int} {d : Decimal}
    (hd : (dyadic m e).rounding.onGrid? tie grid = some d) : RoundsTo d.value m e := by
  obtain ⟨rfl, ha⟩ := admits_onGrid? hd
  have hden : ((dyadic m e).rounding.denominator : ℚ) ≠ 0 := by
    exact_mod_cast (denominator_pos (dyadic m e)).ne'
  have hr := roundsTo_of_admits h (by positivity) ha
  have hv : d.value =
      ((d.digits * ((dyadic m e).rounding.denominator * 10 ^ d.exponent.toNat) : Nat) : ℚ) /
      ((dyadic m e).rounding.denominator * (10 ^ (-d.exponent).toNat : Nat)) := by
    rw [Decimal.value, zpow_eq_div (by norm_num : (10 : ℚ) ≠ 0)]
    push_cast
    field_simp
  rwa [hv]

theorem value_exact (m : Nat) (e : Int) : (dyadic m e).exact.value = m * 2 ^ e := by
  have hten : (10 : ℚ) ^ min e 0 = 2 ^ min e 0 * 5 ^ min e 0 := by
    rw [← mul_zpow]
    norm_num
  have hfive : (5 : ℚ) ^ min e 0 = 1 / 5 ^ (-e).toNat := by
    rw [zpow_eq_div (by norm_num : (5 : ℚ) ≠ 0), Int.toNat_eq_zero.mpr (Int.min_le_right e 0),
      pow_zero]
    congr 2
    omega
  have htwo : (2 : ℚ) ^ e = 2 ^ e.toNat * 2 ^ min e 0 := by
    rw [← zpow_natCast, ← zpow_add₀ (by norm_num)]
    congr 1
    omega
  simp only [Decimal.value, Dyadic.exact, Nat.pow_eq]
  rw [hten, hfive, htwo]
  push_cast
  field_simp

theorem value_dropZeros (fuel : Nat) : ∀ d : Decimal, (d.dropZeros fuel).value = d.value := by
  induction fuel with
  | zero => intro d; rfl
  | succ fuel ih =>
    intro d
    unfold Decimal.dropZeros
    split
    · rename_i h
      rw [ih]
      have hd : (d.digits : ℚ) = 10 * (d.digits / 10 : Nat) := by
        have := Nat.div_add_mod d.digits 10
        exact_mod_cast (by omega : d.digits = 10 * (d.digits / 10))
      simp only [Decimal.value]
      rw [zpow_add_one₀ (by norm_num), hd]
      ring
    · rfl

/-- The shortest decimal of a double rounds to it. -/
theorem roundsTo_shortest (h : Canonical m e) (tie : Tie) :
    RoundsTo ((dyadic m e).shortest tie).value m e := by
  unfold Dyadic.shortest
  rw [if_neg h.pos.ne']
  simp only [value_dropZeros]
  generalize hf : (List.range 17).findSome? _ = found
  cases found with
  | none =>
    rw [Option.getD_none, value_exact]
    exact .self h
  | some d =>
    obtain ⟨n, -, hn⟩ := List.exists_of_findSome?_eq_some hf
    exact value_onGrid? h hn

end Spreadsheet.Numeric
