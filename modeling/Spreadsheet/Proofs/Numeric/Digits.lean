import Mathlib.Algebra.Ring.Nat
import Mathlib.Data.List.Induction
import Mathlib.Data.List.TakeWhile
import Spreadsheet.Numeric.Layout
import Spreadsheet.Numeric.Numeral
import Spreadsheet.Proofs.Text.Ascii
import Spreadsheet.Text.Blank

/-!
# Digits

What `digitsValue` makes of digits that are joined, padded with zeros, or the digits of a number, and
which digits write a number: its own, with any zeros in front (`eq_zeros_append_digitChars`). Digits
are no blanks, and capitals do not change them.
-/

namespace Spreadsheet.Numeric

variable {c : Char} {cs ds : List Char}

theorem digitsValue_append (cs ds : List Char) :
    digitsValue (cs ++ ds) = 10 ^ ds.length * digitsValue cs + digitsValue ds := by
  have h : ∀ l, digitsValue l = Nat.ofDigitChars 10 l 0 := fun _ => rfl
  rw [h, h, h, Nat.ofDigitChars_append, Nat.ofDigitChars_eq_ofDigitChars_zero]

theorem digitsValue_cons (c : Char) (cs : List Char) :
    digitsValue (c :: cs) = 10 ^ cs.length * (c.toNat - '0'.toNat) + digitsValue cs := by
  have h := digitsValue_append [c] cs
  rw [List.singleton_append] at h
  rw [h]
  simp [digitsValue]

theorem digitsValue_replicate (n : Nat) : digitsValue (List.replicate n '0') = 0 := by
  have h : digitsValue (List.replicate n '0') = Nat.ofDigitChars 10 (List.replicate n '0') 0 := rfl
  rw [h, Nat.ofDigitChars_replicate_zero, Nat.mul_zero]

@[simp] theorem digitsValue_digitChars (n : Nat) : digitsValue (digitChars n) = n :=
  Nat.ofDigitChars_ten_toDigits

/-- Leading zeros do not count. -/
theorem digitsValue_dropWhile (cs : List Char) :
    digitsValue (cs.dropWhile (· = '0')) = digitsValue cs := by
  induction cs with
  | nil => rfl
  | cons c cs ih =>
    by_cases hc : c = '0'
    · subst hc
      rw [List.dropWhile_cons, if_pos (by simp), ih, digitsValue_cons, Nat.sub_self, Nat.mul_zero,
        Nat.zero_add]
    · rw [List.dropWhile_cons, if_neg (by simpa using hc)]

theorem isDigit_iff : isDigit c ↔ 48 ≤ c.toNat ∧ c.toNat ≤ 57 := by
  unfold isDigit
  rw [Bool.and_eq_true, decide_eq_true_eq, decide_eq_true_eq]
  rfl

theorem isBlank_of_isDigit (h : isDigit c) : Text.isBlank c = false := by
  have := isDigit_iff.mp h
  simp only [Text.isBlank, Bool.or_eq_false_iff, Bool.and_eq_false_imp, decide_eq_true_eq,
    decide_eq_false_iff_not, beq_eq_false_iff_ne]
  omega

theorem upperAscii_digits (h : ∀ c ∈ cs, isDigit c) : Text.upperAscii cs = cs := by
  refine Text.upperAscii_eq_self fun c hc => Text.toUpper_of_not_small ?_
  have := isDigit_iff.mp (h c hc)
  omega

theorem isDigit_of_mem_digitChars {n : Nat} (h : c ∈ digitChars n) : isDigit c := by
  have hd := Nat.isDigit_of_mem_toDigits (by decide) (by decide) h
  simp only [Char.isDigit, Bool.and_eq_true, decide_eq_true_eq] at hd
  exact isDigit_iff.mpr ⟨hd.1, hd.2⟩

theorem digitChars_ne_nil (n : Nat) : digitChars n ≠ [] := Nat.toDigits_ne_nil

theorem digitsValue_lt (h : ∀ c ∈ cs, isDigit c) : digitsValue cs < 10 ^ cs.length := by
  induction cs with
  | nil => decide
  | cons c cs ih =>
    have hc := isDigit_iff.mp (h c List.mem_cons_self)
    have hi := ih fun d hd => h d (List.mem_cons_of_mem c hd)
    have h0 : '0'.toNat = 48 := rfl
    have hle : c.toNat - 48 ≤ 9 := by omega
    rw [digitsValue_cons, List.length_cons, Nat.pow_succ, h0]
    have := Nat.mul_le_mul_left (10 ^ cs.length) hle
    omega

/-- The first digit other than zero gives the size of a number. -/
theorem le_digitsValue (hd : isDigit c) (hc : c ≠ '0') (cs : List Char) :
    10 ^ cs.length ≤ digitsValue (c :: cs) := by
  have h := isDigit_iff.mp hd
  have h0 : '0'.toNat = 48 := rfl
  have hne : c.toNat ≠ 48 := fun he => hc (Char.toNat_inj.mp he)
  have hle : 1 ≤ c.toNat - 48 := by omega
  rw [digitsValue_cons, h0]
  have := Nat.mul_le_mul_left (10 ^ cs.length) hle
  omega

/-! ## The digits of a number -/

theorem digitChar_sub (h : isDigit c) : Nat.digitChar (c.toNat - '0'.toNat) = c := by
  obtain ⟨hlow, hhigh⟩ := isDigit_iff.mp h
  have table : ∀ d < 10, Nat.digitChar d = Char.ofNat ('0'.toNat + d) := by decide
  have h0 : '0'.toNat = 48 := rfl
  rw [table _ (by omega), Nat.add_sub_cancel' (h0 ▸ hlow), Char.ofNat_toNat]

/-- Digits are those of the number that they write, if they do not start with a zero. -/
theorem digitChars_digitsValue (h : ∀ c ∈ cs, isDigit c) (hne : cs ≠ [])
    (hz : cs.head? ≠ some '0') : digitChars (digitsValue cs) = cs := by
  induction cs using List.reverseRecOn with
  | nil => exact absurd rfl hne
  | append_singleton cs c ih =>
    obtain ⟨hcs, hc⟩ := List.forall_mem_append.mp h
    have hc := hc c (.head _)
    have hlast : digitsValue (cs ++ [c]) = 10 * digitsValue cs + (c.toNat - '0'.toNat) := by
      rw [digitsValue_append, digitsValue_cons]
      simp [digitsValue]
    have hlt : c.toNat - '0'.toNat < 10 := by
      obtain ⟨hlow, hhigh⟩ := isDigit_iff.mp hc
      have h0 : '0'.toNat = 48 := rfl
      omega
    rw [hlast, digitChars]
    cases cs with
    | nil =>
      have h0 : digitsValue [] = 0 := rfl
      rw [h0, Nat.mul_zero, Nat.zero_add, Nat.toDigits_of_lt_base hlt, digitChar_sub hc,
        List.nil_append]
    | cons d ds =>
      have hd : d ≠ '0' := fun hd => hz (by rw [hd]; rfl)
      have hpos := le_digitsValue (hcs d (.head _)) hd ds
      have hpow : 0 < 10 ^ ds.length := Nat.pow_pos (by decide)
      have hfirst : Nat.toDigits 10 (digitsValue (d :: ds)) = d :: ds :=
        ih hcs (List.cons_ne_nil _ _) (by simpa using hd)
      rw [Nat.toDigits_of_base_le (by decide) (by omega), Nat.mul_add_div (by decide),
        Nat.div_eq_of_lt hlt, Nat.add_zero, Nat.mul_add_mod, Nat.mod_eq_of_lt hlt,
        digitChar_sub hc, hfirst]

/-- Digits that write a number other than zero are its own with zeros in front of them. -/
theorem eq_zeros_append_digitChars (h : ∀ c ∈ cs, isDigit c) (hpos : digitsValue cs ≠ 0) :
    ∃ n, cs = List.replicate n '0' ++ digitChars (digitsValue cs) := by
  have hzeros : cs.takeWhile (· = '0') = List.replicate (cs.takeWhile (· = '0')).length '0' :=
    List.eq_replicate_of_mem fun c hc => by simpa using List.mem_takeWhile_imp hc
  have hne : cs.dropWhile (· = '0') ≠ [] := by
    intro hnil
    rw [← digitsValue_dropWhile, hnil] at hpos
    exact hpos rfl
  have hhead : (cs.dropWhile (· = '0')).head? ≠ some '0' := by
    intro hh
    have hnot := List.head?_dropWhile_not (fun c : Char => decide (c = '0')) cs
    rw [hh] at hnot
    simp at hnot
  refine ⟨(cs.takeWhile (· = '0')).length, ?_⟩
  rw [← hzeros, ← digitsValue_dropWhile, digitChars_digitsValue
    (fun c hc => h c (List.dropWhile_subset _ hc)) hne hhead, List.takeWhile_append_dropWhile]

end Spreadsheet.Numeric
