import Mathlib.Algebra.Ring.Nat
import Mathlib.Data.List.Induction
import Spreadsheet.Address.Column

/-!
# Names of columns

The names of columns write positive numbers in base 26 with the digits 1 to 26: `value` gives the
number, `lettersOf` the letters, and each undoes the other (`value_lettersOf`, `lettersOf_value`).
Reading a name stops early where the number goes beyond the greatest index. As numbers only grow
while they are read, that happens for the names of numbers beyond it and for no others
(`readFrom?_eq_some_iff`). So the column of every index but the last has a name, which is read as
that index, and nothing else is (`letters_bijective`).
-/

namespace Spreadsheet.Column

variable {c : Char} {cs : List Char} {d i m n : Nat}

/-! ## Letters and digits -/

theorem isLetter_iff : isLetter c ↔ 65 ≤ c.toNat ∧ c.toNat ≤ 90 := by
  unfold isLetter
  rw [Bool.and_eq_true, decide_eq_true_eq, decide_eq_true_eq]
  rfl

theorem digit_pos (c : Char) : 1 ≤ digit c := Nat.le_add_left 1 _

theorem digit_le (h : isLetter c) : digit c ≤ 26 := by
  have hc := isLetter_iff.mp h
  have hA : 'A'.toNat = 65 := rfl
  unfold digit
  omega

theorem toNat_letter (h : d < 26) : (letter d).toNat = 65 + d := by
  have hall : ∀ d < 26, (letter d).toNat = 65 + d := by decide
  exact hall d h

theorem isLetter_letter (h : d < 26) : isLetter (letter d) := by
  rw [isLetter_iff, toNat_letter h]
  omega

theorem digit_letter (h : d < 26) : digit (letter d) = d + 1 := by
  have hA : 'A'.toNat = 65 := rfl
  rw [digit, toNat_letter h, hA, Nat.add_sub_cancel_left]

theorem letter_digit (h : isLetter c) : letter (digit c - 1) = c := by
  have hc := isLetter_iff.mp h
  have hA : 'A'.toNat = 65 := rfl
  rw [letter, digit, Nat.add_sub_cancel, hA, Nat.add_sub_cancel' hc.1, Char.ofNat_toNat]

/-! ## Numbers and letters -/

/-- The number that letters write: the sum of their digits, each times 26 to the number of the
letters behind it. -/
def value : List Char → Nat
  | [] => 0
  | c :: cs => digit c * 26 ^ cs.length + value cs

theorem value_append_singleton (cs : List Char) (c : Char) :
    value (cs ++ [c]) = 26 * value cs + digit c := by
  induction cs with
  | nil => simp [value]
  | cons b cs ih =>
    simp only [List.cons_append, value, ih, List.length_append, List.length_singleton]
    rw [Nat.pow_succ, ← Nat.mul_assoc, Nat.mul_comm _ 26, ← Nat.add_assoc, ← Nat.mul_add]

theorem value_pos (h : cs ≠ []) : 0 < value cs := by
  rw [← List.dropLast_concat_getLast h, value_append_singleton]
  exact Nat.add_pos_right _ (digit_pos _)

theorem isLetter_of_mem_lettersOf (h : c ∈ lettersOf n) : isLetter c := by
  fun_induction lettersOf n with
  | case1 => cases h
  | case2 n hn ih =>
    rcases List.mem_append.mp h with h | h
    · exact ih h
    · obtain rfl := List.mem_singleton.mp h
      exact isLetter_letter (Nat.mod_lt _ (by decide))

theorem lettersOf_ne_nil (h : n ≠ 0) : lettersOf n ≠ [] := by
  rw [lettersOf, if_neg h]
  exact List.append_ne_nil_of_right_ne_nil _ (List.cons_ne_nil _ _)

theorem value_lettersOf (n : Nat) : value (lettersOf n) = n := by
  fun_induction lettersOf n with
  | case1 => rfl
  | case2 n hn ih =>
    rw [value_append_singleton, ih, digit_letter (Nat.mod_lt _ (by decide))]
    omega

theorem lettersOf_value (h : ∀ c ∈ cs, isLetter c) : lettersOf (value cs) = cs := by
  -- The encoder splits off the last letter, so the induction goes from the end of the text.
  induction cs using List.reverseRecOn with
  | nil => rw [value, lettersOf, if_pos rfl]
  | append_singleton cs c ih =>
    obtain ⟨hcs, hc⟩ := List.forall_mem_append.mp h
    have hc := hc c (.head _)
    have hpos := digit_pos c
    have hle := digit_le hc
    have hlast : (26 * value cs + digit c - 1) % 26 = digit c - 1 := by omega
    have hfirst : (26 * value cs + digit c - 1) / 26 = value cs := by omega
    rw [value_append_singleton, lettersOf, if_neg (by omega), hlast, hfirst, ih hcs,
      letter_digit hc]

/-! ## Reading names -/

/-- Letters are read if the number they write is no greater than the greatest index, however they
are cut. -/
theorem readFrom?_eq_some_iff (hn : n ≤ Numeric.maxIndex) :
    readFrom? n cs = some m ↔
      (∀ c ∈ cs, isLetter c) ∧ n * 26 ^ cs.length + value cs = m ∧ m ≤ Numeric.maxIndex := by
  induction cs generalizing n with
  | nil =>
    simp only [readFrom?, value, List.length_nil, Nat.pow_zero, Nat.mul_one, Nat.add_zero,
      Option.some.injEq]
    constructor
    · rintro rfl
      exact ⟨by simp, rfl, hn⟩
    · exact fun h => h.2.1
  | cons c cs ih =>
    have hnext : n * 26 ^ (c :: cs).length + value (c :: cs) =
        (26 * n + digit c) * 26 ^ cs.length + value cs := by
      rw [value, List.length_cons, Nat.pow_succ', Nat.add_mul, ← Nat.add_assoc, ← Nat.mul_assoc,
        Nat.mul_comm n 26]
    rw [readFrom?, hnext, List.forall_mem_cons]
    by_cases hc : isLetter c
    · simp only [hc, if_true, true_and]
      by_cases hle : 26 * n + digit c ≤ Numeric.maxIndex
      · rw [if_pos hle, ih hle]
      · -- The number does not fall again, so it is too great at the end if it is now.
        have hgrow : 26 * n + digit c ≤ (26 * n + digit c) * 26 ^ cs.length + value cs :=
          Nat.le_add_right_of_le (Nat.le_mul_of_pos_right _ (Nat.pow_pos (by decide)))
        rw [if_neg hle]
        refine iff_of_false nofun ?_
        rintro ⟨-, rfl, hm⟩
        exact hle (Nat.le_trans hgrow hm)
    · simp [hc]

theorem index?_eq_some_iff :
    index? cs = some i ↔
      cs ≠ [] ∧ (∀ c ∈ cs, isLetter c) ∧ value cs = i + 1 ∧ i < Numeric.maxIndex := by
  by_cases hne : cs = []
  · simp [index?, hne]
  · have hpos := value_pos hne
    simp only [index?, List.isEmpty_iff, hne, if_false, Option.map_eq_some_iff,
      readFrom?_eq_some_iff (Nat.zero_le _), Nat.zero_mul, Nat.zero_add]
    constructor
    · rintro ⟨m, ⟨hl, rfl, hm⟩, rfl⟩
      exact ⟨hne, hl, by omega, by omega⟩
    · rintro ⟨-, hl, hv, hi⟩
      exact ⟨i + 1, ⟨hl, hv, hi⟩, rfl⟩

theorem index?_letters (h : i < Numeric.maxIndex) : index? (letters i) = some i :=
  index?_eq_some_iff.mpr ⟨lettersOf_ne_nil (Nat.succ_ne_zero i),
    fun _ => isLetter_of_mem_lettersOf, value_lettersOf (i + 1), h⟩

theorem letters_of_index? (h : index? cs = some i) : letters i = cs := by
  obtain ⟨-, hl, hv, -⟩ := index?_eq_some_iff.mp h
  rw [letters, ← hv, lettersOf_value hl]

theorem index?_eq_none_iff :
    index? cs = none ↔ cs = [] ∨ (∃ c ∈ cs, ¬ isLetter c) ∨ Numeric.maxIndex < value cs := by
  constructor
  · intro h
    by_contra hn
    simp only [not_or, not_exists, not_and, not_not, Nat.not_lt] at hn
    obtain ⟨hne, hl, hv⟩ := hn
    have hpos := value_pos hne
    have hi : index? cs = some (value cs - 1) :=
      index?_eq_some_iff.mpr ⟨hne, hl, by omega, by omega⟩
    cases h.symm.trans hi
  · intro h
    refine Option.eq_none_iff_forall_ne_some.mpr fun i hi => ?_
    obtain ⟨hne, hl, hv, hlt⟩ := index?_eq_some_iff.mp hi
    rcases h with h | ⟨c, hc, hn⟩ | h
    · exact hne h
    · exact hn (hl c hc)
    · omega

/-- The index that a name is read as is undone by naming the column with that index, and the other
way round for every index but the last, whose name writes a number too great. Whatever is no text of
capital letters that write a number up to that bound is no name. -/
theorem letters_bijective :
    (∀ i, i < Numeric.maxIndex → index? (letters i) = some i) ∧
      (∀ cs i, index? cs = some i → letters i = cs) ∧
      ∀ cs, index? cs = none ↔
        cs = [] ∨ (∃ c ∈ cs, ¬ ('A' ≤ c ∧ c ≤ 'Z')) ∨ Numeric.maxIndex < value cs := by
  have hletter : ∀ c, isLetter c ↔ 'A' ≤ c ∧ c ≤ 'Z' := by
    intro c
    rw [isLetter, Bool.and_eq_true, decide_eq_true_eq, decide_eq_true_eq]
  refine ⟨fun i => index?_letters, fun cs i => letters_of_index?, fun cs => ?_⟩
  simp only [index?_eq_none_iff, hletter]

/-- The last column with a name that can be read, and the name that comes after it. -/
theorem letters_bijective_of_greatest :
    Numeric.maxIndex - 1 < Numeric.maxIndex ∧
      letters (Numeric.maxIndex - 1) = "GKGWBYLWRXTLPO".toList ∧
      index? "GKGWBYLWRXTLPO".toList = some (Numeric.maxIndex - 1) ∧
      Numeric.maxIndex < value "GKGWBYLWRXTLPP".toList ∧
      index? "GKGWBYLWRXTLPP".toList = none := by
  have hlt : Numeric.maxIndex - 1 < Numeric.maxIndex := by decide
  have hread : index? "GKGWBYLWRXTLPO".toList = some (Numeric.maxIndex - 1) := by decide
  have hvalue : Numeric.maxIndex < value "GKGWBYLWRXTLPP".toList := by decide
  have hname := letters_bijective.2.1 _ _ hread
  refine ⟨hlt, hname, ?_, hvalue, (letters_bijective.2.2 _).mpr (.inr (.inr hvalue))⟩
  rw [← hname]
  exact letters_bijective.1 _ hlt

end Spreadsheet.Column
