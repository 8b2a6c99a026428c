import Spreadsheet.Numeric.Numeral
import Spreadsheet.Numeric.Shortest
import Spreadsheet.Proofs.Numeric.Rounding

/-!
# The bits of a double

`double sign m e` is the finite double `± m · 2 ^ e`, and `zero sign` is a zero. Every finite double
is one or the other (`exists_of_isFinite`), with the mantissa and the exponent that
`Dyadic.ofFloat` reads off its bits.
-/

namespace Spreadsheet.Numeric

open Float.Model Float.Model.UnpackedFloat

/-- The finite double `± m · 2 ^ e`. -/
def double (sign : Sign) {m : Nat} {e : Int} (h : Canonical m e) : Float :=
  .ofModel (.pack (.finite sign m e h.pos))

/-- The zero with a sign. -/
def zero (sign : Sign) : Float := .ofModel (.pack (.zero sign))

/-- Whether a sign is a minus. -/
def isMinus : Sign → Bool
  | .negative => true
  | .positive => false

variable {sign : Sign} {m : Nat} {e : Int}

/-! ## Fields -/

theorem toNat_append {v w : Nat} (a : BitVec v) (b : BitVec w) :
    (a ++ b).toNat = a.toNat * 2 ^ w + b.toNat := by
  rw [BitVec.toNat_append, ← Nat.shiftLeft_add_eq_or_of_lt b.isLt, Nat.shiftLeft_eq]

theorem toNat_packComponents (sign : Sign) (exponent : BitVec 11) (fraction : BitVec 52) :
    (packComponents .binary64 sign exponent fraction).toNat =
      (isMinus sign).toNat * 2 ^ 63 + exponent.toNat * 2 ^ 52 + fraction.toNat := by
  have hs : sign.toBitVec.toNat = (isMinus sign).toNat := by cases sign <;> rfl
  have h : (packComponents .binary64 sign exponent fraction).toNat =
      (sign.toBitVec ++ exponent).toNat * 2 ^ 52 + fraction.toNat := toNat_append _ _
  rw [h, toNat_append, hs]
  omega

theorem toNat_unpackExponent (b : BitVec 64) :
    (@unpackExponent .binary64 b).toNat = b.toNat / 2 ^ 52 % 2 ^ 11 := by
  simp [unpackExponent, BitVec.extractLsb, Nat.shiftRight_eq_div_pow]

theorem toNat_unpackSign (b : BitVec 64) :
    (@unpackSign .binary64 b).toNat = b.toNat / 2 ^ 63 := by
  have := b.isLt
  simp [unpackSign, BitVec.extractLsb, Nat.shiftRight_eq_div_pow]
  omega

/-! ## Packing -/

theorem log2_eq (h : Canonical m e) : (m.log2 + 1 = 53) ↔ 2 ^ 52 ≤ m := by
  have hl : m.log2 < 53 := (Nat.log2_lt h.pos.ne').mpr h.lt
  rw [← Nat.le_log2 h.pos.ne']
  omega

theorem pack_finite (h : Canonical m e) (he : e ≤ 971) :
    UnpackedFloat.pack .binary64 (.finite sign m e h.pos) =
      packComponents .binary64 sign
        (if 2 ^ 52 ≤ m then BitVec.ofNat 11 (e + 1075).toNat else 0#11) (BitVec.ofNat 52 m) := by
  have hleast := h.least
  have hlow : ¬ 2 ^ 11 ≤ (e + 1075).toNat + 1 := by omega
  have hb : (e + (Format.exponentBias .binary64 : Nat) + (52 : Nat) : Int) = e + 1075 := by
    rw [Int.add_assoc]
    rfl
  simp only [UnpackedFloat.pack, hb, hlow, if_false]
  by_cases hm : 2 ^ 52 ≤ m
  · have hl : m.log2 + 1 = Format.mantissaBits .binary64 := (log2_eq h).mpr hm
    rw [if_pos hl, if_pos hm]
  · have hl : ¬ m.log2 + 1 = Format.mantissaBits .binary64 := fun hl => hm ((log2_eq h).mp hl)
    rw [if_neg hl, if_neg hm]

theorem toNat_pack_finite (h : Canonical m e) (he : e ≤ 971) :
    (UnpackedFloat.pack .binary64 (.finite sign m e h.pos)).toNat =
      (isMinus sign).toNat * 2 ^ 63 + (if 2 ^ 52 ≤ m then (e + 1075).toNat else 0) * 2 ^ 52 +
        m % 2 ^ 52 := by
  have hleast := h.least
  rw [pack_finite h he, toNat_packComponents, BitVec.toNat_ofNat]
  split
  · rw [BitVec.toNat_ofNat, Nat.mod_eq_of_lt (by omega : (e + 1075).toNat < 2 ^ 11)]
  · rfl

theorem toNat_pack_zero (sign : Sign) :
    (UnpackedFloat.pack .binary64 (.zero sign)).toNat = (isMinus sign).toNat * 2 ^ 63 := by
  cases sign <;> rfl

/-- Two doubles with the same bits are the same. -/
theorem eq_of_toNat_toBits {x y : Float} (h : x.toBits.toNat = y.toBits.toNat) : x = y := by
  have hb := UInt64.toNat_inj.mp h
  cases x with
  | ofModel x =>
    cases y with
    | ofModel y =>
      cases x
      cases y
      cases hb
      rfl

theorem toNat_toBits_double (h : Canonical m e) (he : e ≤ 971) :
    (double sign h).toBits.toNat =
      (isMinus sign).toNat * 2 ^ 63 + (if 2 ^ 52 ≤ m then (e + 1075).toNat else 0) * 2 ^ 52 +
        m % 2 ^ 52 :=
  toNat_pack_finite h he

theorem toNat_toBits_zero (sign : Sign) :
    (zero sign).toBits.toNat = (isMinus sign).toNat * 2 ^ 63 :=
  toNat_pack_zero sign

/-- A finite double does not have the greatest exponent field. -/
theorem exponent_ne_of_isFinite {x : Float} (h : x.isFinite) :
    x.toBits.toNat / 2 ^ 52 % 2 ^ 11 ≠ 2047 := by
  intro hn
  have he : @unpackExponent .binary64 x.toBits.toBitVec = -1#11 := by
    refine BitVec.eq_of_toNat_eq ?_
    rw [toNat_unpackExponent]
    exact hn
  have hf : (UnpackedFloat.unpack .binary64 x.toBits.toBitVec).isFinite = true := h
  unfold UnpackedFloat.unpack at hf
  simp only [he, if_true] at hf
  split at hf <;> cases hf

/-- Every finite double is a zero, or has one mantissa and exponent; they are what
`Dyadic.ofFloat` finds. -/
theorem exists_of_isFinite {x : Float} (hx : x.isFinite) :
    (∃ sign, x = zero sign ∧ (Dyadic.ofFloat x).mantissa = 0 ∧ isNegative x = isMinus sign) ∨
      ∃ (sign : Sign) (m : Nat) (e : Int) (h : Canonical m e), e ≤ 971 ∧ x = double sign h ∧
        Dyadic.ofFloat x = ⟨m, e, decide (m = 2 ^ 52 ∧ -1074 < e)⟩ ∧
          isNegative x = isMinus sign := by
  have hne := exponent_ne_of_isFinite hx
  have hlt : x.toBits.toNat < 2 ^ 64 := x.toBits.toBitVec.isLt
  obtain ⟨sign, hs⟩ : ∃ sign, x.toBits.toNat / 2 ^ 63 = (isMinus sign).toNat := by
    rcases Nat.lt_or_ge x.toBits.toNat (2 ^ 63) with h | h
    · exact ⟨.positive, by simp only [isMinus, Bool.toNat_false]; omega⟩
    · exact ⟨.negative, by simp only [isMinus, Bool.toNat_true]; omega⟩
  have hneg : isNegative x = isMinus sign := by
    unfold isNegative
    rw [show 0x8000000000000000 = 2 ^ 63 by rfl, hs]
    cases sign <;> rfl
  have hbits : x.toBits.toNat = (isMinus sign).toNat * 2 ^ 63 +
      x.toBits.toNat / 2 ^ 52 % 2 ^ 11 * 2 ^ 52 + x.toBits.toNat % 2 ^ 52 := by
    rw [← hs]
    omega
  have hf : x.toBits.toNat % 2 ^ 52 < 2 ^ 52 := Nat.mod_lt _ (by norm_num)
  have hb : x.toBits.toNat / 2 ^ 52 % 2 ^ 11 < 2 ^ 11 := Nat.mod_lt _ (by norm_num)
  have hd : Dyadic.ofFloat x =
      if x.toBits.toNat / 2 ^ 52 % 2 ^ 11 = 0 then ⟨x.toBits.toNat % 2 ^ 52, -1074, false⟩
      else ⟨2 ^ 52 + x.toBits.toNat % 2 ^ 52, (x.toBits.toNat / 2 ^ 52 % 2 ^ 11 : Nat) - 1075,
        x.toBits.toNat % 2 ^ 52 = 0 && x.toBits.toNat / 2 ^ 52 % 2 ^ 11 > 1⟩ := rfl
  generalize x.toBits.toNat / 2 ^ 52 % 2 ^ 11 = biased at hne hbits hb hd
  generalize x.toBits.toNat % 2 ^ 52 = fraction at hbits hf hd
  by_cases hz : biased = 0
  · rw [if_pos hz] at hd
    by_cases hm : fraction = 0
    · refine .inl ⟨sign, eq_of_toNat_toBits ?_, by rw [hd, hm], hneg⟩
      rw [hbits, toNat_toBits_zero, hz, hm, Nat.zero_mul, Nat.add_zero]
    · have h : Canonical fraction (-1074) :=
        ⟨Nat.pos_of_ne_zero hm, by omega, Int.le_refl _, .inr rfl⟩
      refine .inr ⟨sign, fraction, -1074, h, by norm_num, eq_of_toNat_toBits ?_, ?_, hneg⟩
      · rw [hbits, toNat_toBits_double h (by norm_num), hz, if_neg (by omega),
          Nat.mod_eq_of_lt hf]
      · simp [hd]
  · rw [if_neg hz] at hd
    have h : Canonical (2 ^ 52 + fraction) ((biased : Int) - 1075) :=
      ⟨by omega, by omega, by omega, .inl (Nat.le_add_right _ _)⟩
    refine .inr ⟨sign, _, _, h, by omega, eq_of_toNat_toBits ?_, ?_, hneg⟩
    · rw [hbits, toNat_toBits_double h (by omega), if_pos (Nat.le_add_right _ _)]
      omega
    · rw [hd]
      simp only [Dyadic.mk.injEq, true_and]
      rw [Bool.eq_iff_iff]
      simp only [gt_iff_lt, Bool.and_eq_true, decide_eq_true_eq]
      omega

/-! ## Unpacking -/

theorem unpackSign_packComponents (sign : Sign) (exponent : BitVec 11) (fraction : BitVec 52) :
    Sign.ofBitVec (@unpackSign .binary64 (packComponents .binary64 sign exponent fraction)) =
      sign := by
  have h : @unpackSign .binary64 (packComponents .binary64 sign exponent fraction) =
      sign.toBitVec := by
    refine BitVec.eq_of_toNat_eq ?_
    rw [toNat_unpackSign, toNat_packComponents]
    have h₁ := exponent.isLt
    have h₂ := fraction.isLt
    have h₃ : sign.toBitVec.toNat = (isMinus sign).toNat := by cases sign <;> rfl
    omega
  rw [h]
  cases sign <;> rfl

theorem finite_congr {m' : Nat} {e' : Int} {h : 0 < m} {h' : 0 < m'} (hm : m = m') (he : e = e') :
    UnpackedFloat.finite sign m e h = .finite sign m' e' h' := by
  subst hm
  subst he
  rfl

theorem unpack_subnormal {fraction : BitVec 52} (hf : 0 < fraction.toNat) :
    UnpackedFloat.unpack .binary64 (packComponents .binary64 sign 0#11 fraction) =
      .finite sign fraction.toNat (-1074) hf := by
  have hne : fraction ≠ 0#52 := by
    rintro rfl
    exact absurd hf (by decide)
  have hz : ¬ (0#11 = -1#11) := by decide
  unfold UnpackedFloat.unpack
  simp only [unpackExponent_packComponents, unpackMantissa_packComponents,
    unpackSign_packComponents, hz, hne, if_false, if_true, dite_false]
  exact finite_congr rfl rfl

theorem unpack_normal {exponent : BitVec 11} {fraction : BitVec 52} (h₁ : exponent ≠ -1#11)
    (h₀ : exponent ≠ 0#11) (hp : 0 < 2 ^ 52 + fraction.toNat) :
    UnpackedFloat.unpack .binary64 (packComponents .binary64 sign exponent fraction) =
      .finite sign (2 ^ 52 + fraction.toNat) (exponent.toNat - 1075) hp := by
  unfold UnpackedFloat.unpack
  simp only [unpackExponent_packComponents, unpackMantissa_packComponents,
    unpackSign_packComponents, h₁, h₀, if_false]
  refine finite_congr ?_ rfl
  exact toNat_append 1#1 fraction

/-- Unpacking gives back what was packed. -/
theorem unpack_double (h : Canonical m e) (he : e ≤ 971) :
    (double sign h).toModel.unpack = .finite sign m e h.pos := by
  have hleast := h.least
  have hlt := h.lt
  have hu : (double sign h).toModel.unpack =
      UnpackedFloat.unpack .binary64 (UnpackedFloat.pack .binary64 (.finite sign m e h.pos)) := rfl
  have hf : (BitVec.ofNat 52 m).toNat = m % 2 ^ 52 := BitVec.toNat_ofNat ..
  rw [hu, pack_finite h he]
  by_cases hm : 2 ^ 52 ≤ m
  · have hb : (BitVec.ofNat 11 (e + 1075).toNat).toNat = (e + 1075).toNat := by
      rw [BitVec.toNat_ofNat, Nat.mod_eq_of_lt (by omega)]
    have hne : ∀ b : BitVec 11, b.toNat ≠ (e + 1075).toNat →
        BitVec.ofNat 11 (e + 1075).toNat ≠ b := by
      rintro b hne rfl
      exact hne hb
    rw [if_pos hm, unpack_normal (hne _ ?_) (hne _ ?_) (by omega)]
    · refine finite_congr ?_ ?_ <;> omega
    · rw [show (-1#11).toNat = 2047 by rfl]
      omega
    · rw [show (0#11).toNat = 0 by rfl]
      omega
  · have hfm : (BitVec.ofNat 52 m).toNat = m := by omega
    have hpos := h.pos
    rw [if_neg hm, unpack_subnormal (by omega)]
    refine finite_congr hfm ?_
    have := h.normal
    omega

/-! ## Signs -/

theorem neg_double (h : Canonical m e) (he : e ≤ 971) : -double sign h = double (-sign) h := by
  have hn : -double sign h = Float.ofModel (.pack (double sign h).toModel.unpack.neg) := rfl
  rw [hn, unpack_double h he]
  rfl

/-- A double is its absolute value behind its sign. -/
theorem withSign_double (h : Canonical m e) (he : e ≤ 971) :
    withSign (isMinus sign) (double .positive h) = double sign h := by
  cases sign with
  | negative => exact neg_double h he
  | positive => rfl

theorem withSign_zero (sign : Sign) : withSign (isMinus sign) (zero .positive) = zero sign := by
  cases sign <;> decide +kernel

end Spreadsheet.Numeric
