import Spreadsheet.Proofs.Numeric.Spelling

/-!
# Signed numerals

A number is read off a whole text (`readNumber?`) or off the start of one (`leadingNumber?`). The
texts of finite numbers are the signed numerals (`WritesNumber`): whatever else is read as a whole is
the name of a number that is not finite. The number of a signed numeral is also the one at the start
of a text, as long as what follows does not go on with it (`WritesNumber.leadingNumber?_append`). So
both readers agree on every text of a finite number.
-/

namespace Spreadsheet.Numeric

/-- The texts of signed numerals, with the numbers that they are read as. -/
inductive WritesNumber : List Char → Float → Prop where
  | signed {sign text n} : sign = [] ∨ sign = ['+'] ∨ sign = ['-'] → WritesNumeral text n →
      WritesNumber (sign ++ text) (withSign (sign = ['-']) n.value)

variable {c : Char} {text rest : List Char} {n : Numeral} {x : Float} {k : Int}

/-! ## Characters -/

/-- A numeral starts with a digit or a point. -/
theorem WritesNumeral.exists_cons (h : WritesNumeral text n) :
    ∃ c after, text = c :: after ∧ (isDigit c ∨ c = '.') := by
  cases h with
  | whole hw _ =>
    obtain ⟨c, cs, rfl⟩ := List.exists_cons_of_ne_nil hw.ne_nil
    exact ⟨c, _, rfl, .inl (hw.digits c List.mem_cons_self)⟩
  | @point whole fraction tail _ hw _ _ _ =>
    cases whole with
    | nil => exact ⟨'.', _, rfl, .inr rfl⟩
    | cons c cs => exact ⟨c, _, rfl, .inl (hw c List.mem_cons_self)⟩

/-- What holds of digits, marks, signs and the point holds of the characters of a signed numeral. -/
theorem WritesNumber.forall_mem (h : WritesNumber text x) {p : Char → Prop}
    (digit : ∀ c, isDigit c → p c) (mark : ∀ c, isMark c → p c) (plus : p '+') (minus : p '-')
    (point : p '.') : ∀ c ∈ text, p c := by
  have hsign : ∀ {sign : List Char}, sign = [] ∨ sign = ['+'] ∨ sign = ['-'] → ∀ c ∈ sign, p c := by
    intro sign hs c hc
    rcases hs with rfl | rfl | rfl
    · cases hc
    · exact List.mem_singleton.mp hc ▸ plus
    · exact List.mem_singleton.mp hc ▸ minus
  have hexponent : ∀ {tail k}, WritesExponent tail k → ∀ c ∈ tail, p c := by
    intro tail k ht
    cases ht with
    | none => exact fun _ => nofun
    | marked hm hs hd =>
      exact List.forall_mem_cons.mpr ⟨mark _ hm,
        List.forall_mem_append.mpr ⟨hsign hs, fun c hc => digit c (hd.digits c hc)⟩⟩
  obtain ⟨hs, hw⟩ := h
  refine List.forall_mem_append.mpr ⟨hsign hs, ?_⟩
  cases hw with
  | whole hw ht =>
    exact List.forall_mem_append.mpr ⟨fun c hc => digit c (hw.digits c hc), hexponent ht⟩
  | point hw hf _ ht =>
    exact List.forall_mem_append.mpr ⟨fun c hc => digit c (hw c hc),
      List.forall_mem_cons.mpr ⟨point,
        List.forall_mem_append.mpr ⟨fun c hc => digit c (hf c hc), hexponent ht⟩⟩⟩

theorem writesNumber_of_writesNumeral (negative : Bool) (h : WritesNumeral text n) :
    WritesNumber ((if negative then ['-'] else []) ++ text) (withSign negative n.value) := by
  cases negative with
  | false => exact .signed (.inl rfl) h
  | true => exact .signed (.inr (.inr rfl)) h

theorem WritesNumber.ne_nil (h : WritesNumber text x) : text ≠ [] := by
  obtain ⟨hs, hw⟩ := h
  obtain ⟨c, after, rfl, -⟩ := hw.exists_cons
  simp

/-! ## Readers -/

theorem splitSign_of_writesNumeral {sign : List Char} (hs : sign = [] ∨ sign = ['+'] ∨ sign = ['-'])
    (h : WritesNumeral text n) (rest : List Char) :
    splitSign (sign ++ text ++ rest) = (decide (sign = ['-']), text ++ rest) := by
  obtain ⟨c, after, rfl, hc⟩ := h.exists_cons
  have hne : c ≠ '+' ∧ c ≠ '-' := by
    rcases hc with hc | rfl
    · exact ne_sign_of_isDigit hc
    · decide
  rw [List.append_assoc, List.cons_append]
  exact splitSign_of_sign hs hne (after ++ rest)

/-- A signed numeral at the start of a text is the number there, if no digit, no mark and no point
follows it. -/
theorem WritesNumber.leadingNumber?_append (h : WritesNumber text x) (hd : StopsAt isDigit rest)
    (hm : StopsAt isMark rest) (hp : StopsAt (· = '.') rest) :
    leadingNumber? (text ++ rest) = some x := by
  obtain ⟨hs, hw⟩ := h
  simp only [leadingNumber?, splitSign_of_writesNumeral hs hw, hw.scan?_append hd hm hp,
    Option.map_some]

theorem readNumber?_of_writesNumber (h : WritesNumber text x) : readNumber? text = some x := by
  obtain ⟨hs, hw⟩ := h
  have hsplit := splitSign_of_writesNumeral hs hw []
  rw [List.append_nil, List.append_nil] at hsplit
  simp only [readNumber?, hsplit, scan?_eq_some_iff.mpr hw]

theorem isFinite_namedNumber? {negative : Bool} {y : Float} (h : namedNumber? text = some y) :
    (withSign negative y).isFinite = false := by
  simp only [namedNumber?] at h
  split at h
  · obtain rfl := Option.some.inj h
    cases negative <;> decide +kernel
  · split at h
    · obtain rfl := Option.some.inj h
      cases negative <;> decide +kernel
    · cases h

/-- The texts that are read as finite numbers are signed numerals. -/
theorem writesNumber_of_readNumber? (h : readNumber? text = some x) (hx : x.isFinite) :
    WritesNumber text x := by
  obtain ⟨sign, ht, hneg, hs⟩ := exists_sign text
  simp only [readNumber?] at h
  split at h
  · rename_i n hn
    obtain rfl := Option.some.inj h
    have hw := WritesNumber.signed hs (scan?_eq_some_iff.mp hn)
    rwa [← ht, ← hneg] at hw
  · cases h
  · obtain ⟨y, hy, rfl⟩ := Option.map_eq_some_iff.mp h
    rw [isFinite_namedNumber? hy] at hx
    cases hx

end Spreadsheet.Numeric
