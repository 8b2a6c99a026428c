import Spreadsheet.Formula.Evaluation
import Spreadsheet.Proofs.Formula.Pieces
import Spreadsheet.Proofs.Formula.Writing
import Spreadsheet.Proofs.Text.Ascii

/-!
# Formulas without references

A formula that is an expression of numbers goes the way of every formula: it is put in capitals, and
what looks like a reference is replaced, before it is read as an expression. Capitals do not change
an expression (`Writes.upper`). References do: `1e5` in capitals is `1E5`, and that is a one in
front of the reference `E5`. An exponent with a sign is never taken for a reference. So a formula
without references has the value of its expression if all its exponents have signs
(`ExponentsSigned`); and if one has none, a number stands right in front of a parenthesis, which is
no expression, and the formula comes to zero (`evaluate_of_writes`).
-/

namespace Spreadsheet.Formula

open Numeric Expression

variable {c : Char} {text : List Char} {tokens : List Token} {e : Expression} {n : Numeral}
  {k : Int} {view : View} {anchor : Position}

/-! ## Expressions in capitals -/

/-- The digits of numerals. -/
def decimalDigits : List Char := ['0', '1', '2', '3', '4', '5', '6', '7', '8', '9']

/-- The characters of expressions. -/
def alphabet : List Char := separators ++ symbols ++ decimalDigits ++ ['.', 'e', 'E']

theorem mem_decimalDigits (h : isDigit c) : c ∈ decimalDigits := by
  have hcodes : ∀ n < 58, 48 ≤ n → Char.ofNat n ∈ decimalDigits := by decide
  have h := isDigit_iff.mp h
  have hc := hcodes c.toNat (Nat.lt_succ_of_le h.2) h.1
  rwa [Char.ofNat_toNat] at hc

theorem mem_of_isNumberChar (h : isNumberChar c) : c ∈ '.' :: decimalDigits := by
  rcases Bool.or_eq_true_iff.mp h with hd | hp
  · exact List.mem_cons_of_mem _ (mem_decimalDigits hd)
  · rw [of_decide_eq_true hp]
    exact List.mem_cons_self

theorem mem_alphabet_iff : c ∈ alphabet ↔
    c ∈ separators ∨ c ∈ symbols ∨ c ∈ decimalDigits ∨ c = '.' ∨ isMark c := by
  simp [alphabet, isMark_iff]

theorem mem_alphabet_of_isDigit (h : isDigit c) : c ∈ alphabet :=
  mem_alphabet_iff.mpr (.inr (.inr (.inl (mem_decimalDigits h))))

theorem mem_alphabet_of_writesNumeral (h : WritesNumeral text n) : ∀ c ∈ text, c ∈ alphabet :=
  (WritesNumber.signed (.inl rfl) h).forall_mem (fun _ => mem_alphabet_of_isDigit)
    (fun _ hm => mem_alphabet_iff.mpr (.inr (.inr (.inr (.inr hm))))) (by decide) (by decide)
    (by decide)

theorem WritesTokens.mem_alphabet (h : WritesTokens text tokens) : ∀ c ∈ text, c ∈ alphabet := by
  induction h with
  | nil => simp
  | blank hs _ ih =>
    exact List.forall_mem_cons.mpr ⟨mem_alphabet_iff.mpr (.inl (mem_separators hs)), ih⟩
  | symbol ht _ ih =>
    exact List.forall_mem_cons.mpr ⟨mem_alphabet_iff.mpr (.inr (.inl (mem_symbols ht))), ih⟩
  | number hw _ ih => exact List.forall_mem_append.mpr ⟨mem_alphabet_of_writesNumeral hw, ih⟩

/-- A text of tokens starts with a separator, a symbol, a digit or a point. -/
theorem WritesTokens.stopsAt_of_forall {p : Char → Bool}
    (hp : ∀ c ∈ separators ++ symbols ++ '.' :: decimalDigits, p c = false)
    (h : WritesTokens text tokens) : StopsAt p text := by
  obtain ⟨hsymbols, hnumbers⟩ := List.forall_mem_append.mp hp
  cases h with
  | nil => exact stopsAt_nil p
  | blank hc _ => exact stopsAt_cons (hsymbols _ (List.mem_append_left _ (mem_separators hc))) _
  | symbol hc _ => exact stopsAt_cons (hsymbols _ (List.mem_append_right _ (mem_symbols hc))) _
  | number hw _ =>
    obtain ⟨c, after, rfl, hc⟩ := exists_cons_of_writesNumeral hw
    exact stopsAt_cons (hnumbers c (mem_of_isNumberChar hc)) _

theorem WritesTokens.toNat_lt (h : WritesTokens text tokens) : ∀ c ∈ text, c.toNat < 0x80 := by
  have ascii : ∀ c ∈ alphabet, c.toNat < 0x80 := List.all_iff_forall_prop.mp (by decide)
  exact fun c hc => ascii c (h.mem_alphabet c hc)

theorem writesExponent_upperAscii {tail : List Char} (h : WritesExponent tail k) :
    WritesExponent (Text.upperAscii tail) k := by
  cases h with
  | none => exact .none
  | @marked mark sign digits hm hs hd =>
    have hmark : isMark mark.toUpper := by rcases isMark_iff.mp hm with rfl | rfl <;> rfl
    have hsign : Text.upperAscii sign = sign := by rcases hs with rfl | rfl | rfl <;> rfl
    rw [Text.upperAscii_cons, Text.upperAscii_append, hsign, upperAscii_digits hd.digits]
    exact .marked hmark hs hd

theorem writesNumeral_upperAscii (h : WritesNumeral text n) :
    WritesNumeral (Text.upperAscii text) n := by
  cases h with
  | @whole whole tail k hw ht =>
    rw [Text.upperAscii_append, upperAscii_digits hw.digits]
    exact .whole hw (writesExponent_upperAscii ht)
  | @point whole fraction tail k hw hf hne ht =>
    rw [Text.upperAscii_append, Text.upperAscii_cons, Text.upperAscii_append, upperAscii_digits hw,
      upperAscii_digits hf]
    exact .point hw hf hne (writesExponent_upperAscii ht)

theorem WritesTokens.upperAscii (h : WritesTokens text tokens) :
    WritesTokens (Text.upperAscii text) tokens := by
  have hseparators : ∀ c ∈ separators, c.toUpper = c := List.all_iff_forall_prop.mp (by decide)
  have hsymbols : ∀ c ∈ symbols, c.toUpper = c := List.all_iff_forall_prop.mp (by decide)
  induction h with
  | nil => exact .nil
  | blank hs _ ih => exact .blank (by rwa [hseparators _ (mem_separators hs)]) ih
  | symbol ht _ ih => exact .symbol (by rwa [hsymbols _ (mem_symbols ht)]) ih
  | number hw _ ih =>
    rw [Text.upperAscii_append]
    exact .number (writesNumeral_upperAscii hw) ih

/-- An expression in capitals is the same expression. -/
theorem Writes.upper (h : Writes text e) : Writes (Text.upper text) e := by
  obtain ⟨tokens, hw, hd⟩ := h
  rw [Text.upper_of_ascii hw.toNat_lt]
  exact ⟨tokens, hw.upperAscii, hd⟩

/-! ## Marks of exponents -/

/-- Whether a mark of an exponent only stands right behind a digit or a point. -/
def MarksFollow (text : List Char) : Prop := text.IsChain fun c d => isMark d → isNumberChar c

theorem MarksFollow.cons {d : Char} (h : MarksFollow text) (hm : StopsAt isMark text) :
    MarksFollow (d :: text) := by
  refine List.IsChain.cons h fun c hc hmark => ?_
  rw [hm c hc] at hmark
  cases hmark

theorem marksFollow_of_writesExponent {tail : List Char} (h : WritesExponent tail k) :
    MarksFollow tail := by
  cases h with
  | none => exact .nil
  | @marked mark sign digits hm hs hd =>
    have hunmarked : ∀ c ∈ sign ++ digits, isMark c = false := by
      refine List.forall_mem_append.mpr ⟨?_, fun c hc => Bool.eq_false_iff.mpr fun hm => ?_⟩
      · rcases hs with rfl | rfl | rfl <;> exact List.all_iff_forall_prop.mp (by decide)
      · have hdigit := hd.digits c hc
        rw [not_isDigit_of_isMark hm] at hdigit
        cases hdigit
    refine MarksFollow.cons ?_ fun c hc => hunmarked c (List.mem_of_mem_head? hc)
    refine List.isChain_iff_forall_rel_of_append_cons_cons.mpr fun c d before after h hm => ?_
    rw [hunmarked d (by simp [h])] at hm
    cases hm

theorem marksFollow_of_writesNumeral (h : WritesNumeral text n) : MarksFollow text := by
  obtain ⟨mantissa, tail, rfl, hne, hmantissa, ht⟩ := exists_mantissa h
  refine List.IsChain.append ?_ (marksFollow_of_writesExponent ht) fun c hc _ _ _ =>
    hmantissa c (List.mem_of_mem_getLast? hc)
  exact List.isChain_iff_forall_rel_of_append_cons_cons.mpr fun c d before after h _ =>
    hmantissa c (by simp [h])

theorem WritesTokens.stopsAt_isMark (h : WritesTokens text tokens) : StopsAt isMark text :=
  h.stopsAt_of_forall (List.all_iff_forall_prop.mp (by decide))

theorem WritesTokens.marksFollow (h : WritesTokens text tokens) : MarksFollow text := by
  induction h with
  | nil => exact .nil
  | blank _ h ih => exact ih.cons h.stopsAt_isMark
  | symbol _ h ih => exact ih.cons h.stopsAt_isMark
  | number hw h ih =>
    refine List.IsChain.append (marksFollow_of_writesNumeral hw) ih fun _ _ d hd hm => ?_
    rw [h.stopsAt_isMark d hd] at hm
    cases hm

theorem WritesTokens.eq_nil (h : WritesTokens [] tokens) : tokens = [] := by
  generalize hnil : ([] : List Char) = text at h
  cases h with
  | nil => rfl
  | blank _ _ => cases hnil
  | symbol _ _ => cases hnil
  | number hw _ =>
    obtain ⟨c, after, rfl, -⟩ := exists_cons_of_writesNumeral hw
    cases hnil

/-- Whether a text ends with a digit or a point. -/
def EndsInNumber (text : List Char) : Prop := ∃ c ∈ text.getLast?, isNumberChar c

theorem EndsInNumber.of_cons (h : EndsInNumber (c :: text)) (hc : isNumberChar c = false) :
    EndsInNumber text := by
  cases text with
  | nil =>
    obtain ⟨d, hd, hn⟩ := h
    have hd : c = d := Option.some.inj hd
    rw [← hd, hc] at hn
    cases hn
  | cons d text => exact h

/-- A text of tokens that ends with a digit or a point ends with an operand. -/
theorem WritesTokens.closes (h : WritesTokens text tokens) (hc : EndsInNumber text) :
    ∃ t ∈ tokens.getLast?, t.closes := by
  have later : ∀ {token : Token} {tokens : List Token}, (∃ t ∈ tokens.getLast?, t.closes) →
      ∃ t ∈ (token :: tokens).getLast?, t.closes := by
    rintro token tokens ⟨t, ht, hcloses⟩
    exact ⟨t, List.mem_getLast?_cons ht, hcloses⟩
  induction h with
  | nil =>
    obtain ⟨c, hc, -⟩ := hc
    cases hc
  | blank hs _ ih =>
    have hp : ∀ c ∈ separators, isNumberChar c = false := List.all_iff_forall_prop.mp (by decide)
    exact ih (hc.of_cons (hp _ (mem_separators hs)))
  | symbol ht _ ih =>
    have hp : ∀ c ∈ symbols, isNumberChar c = false := List.all_iff_forall_prop.mp (by decide)
    exact later (ih (hc.of_cons (hp _ (mem_symbols ht))))
  | @number numeral n text tokens hw h ih =>
    cases text with
    | nil =>
      obtain rfl := h.eq_nil
      exact ⟨_, rfl, rfl⟩
    | cons d text =>
      unfold EndsInNumber at hc
      rw [List.getLast?_append_of_ne_nil _ (List.cons_ne_nil d text)] at hc
      exact later (ih hc)

/-! ## The value of a formula -/

/-- Whether every exponent of an expression has a sign: no digit stands right behind a mark. -/
def ExponentsSigned (text : List Char) : Prop :=
  text.IsChain fun c d => isMark c → isDigit d = false

instance (text : List Char) : Decidable (ExponentsSigned text) :=
  inferInstanceAs (Decidable (text.IsChain _))

/-- In capitals, the marks of exponents are the only letters. -/
theorem WritesTokens.noDigitBehindLetter_upperAscii_iff (h : WritesTokens text tokens) :
    NoDigitBehindLetter (Text.upperAscii text) ↔ ExponentsSigned text := by
  have hletter : ∀ c ∈ alphabet, Column.isLetter c.toUpper = isMark c :=
    List.all_iff_forall_prop.mp (by decide)
  have hdigit : ∀ c ∈ alphabet, isDigit c.toUpper = isDigit c :=
    List.all_iff_forall_prop.mp (by decide)
  refine (List.isChain_map Char.toUpper).trans (List.IsChain.iff_of_mem_imp fun c d hc hd => ?_)
  rw [hletter c (h.mem_alphabet c hc), hdigit d (h.mem_alphabet d hd)]

/-- A number right in front of a reference stands right in front of a parenthesis once the reference
is replaced, and that is no expression. -/
theorem numberOf?_substitute_eq_none (h : WritesTokens text tokens)
    (hm : ∀ c ∈ text, c ≠ '$' ∧ (Column.isLetter c → isMark c)) (hl : ¬ NoDigitBehindLetter text) :
    numberOf? (substitute text view anchor) = none := by
  obtain ⟨before, c, after, rest, rfl, hkind, htext⟩ := exists_substitute_eq hl view anchor
  obtain ⟨hdollar, hletter⟩ := hm c (by simp)
  have hmark := hletter (hkind.resolve_left hdollar)
  -- The reference starts with a mark, and a mark stands behind a digit or a point.
  have hbefore : EndsInNumber before := by
    cases hlast : before.getLast? with
    | none =>
      rw [List.getLast?_eq_none_iff.mp hlast] at h
      have hstops := h.stopsAt_isMark c rfl
      rw [hmark] at hstops
      cases hstops
    | some d => exact ⟨d, hlast, (List.isChain_append.mp h.marksFollow).2.2 d hlast c rfl hmark⟩
  refine Option.eq_none_iff_forall_ne_some.mpr fun x hx => ?_
  obtain ⟨-, e, hw, -⟩ := numberOf?_eq_some_iff_writes.mp hx
  obtain ⟨all, ht, hderives⟩ := writes_iff.mp hw
  rw [htext, tokens?_append endsNumber_opening, tokens?_token rfl] at ht
  obtain ⟨first, hfirst, ht⟩ := Option.bind_eq_some_iff.mp ht
  obtain ⟨_, ho, rfl⟩ := Option.map_eq_some_iff.mp ht
  obtain ⟨last, -, rfl⟩ := Option.map_eq_some_iff.mp ho
  obtain ⟨t, ht, hcloses⟩ := (writesTokens_of_tokens? hfirst).closes hbefore
  -- The tokens before end an operand, and the parenthesis starts another.
  have hopens := (List.isChain_append.mp hderives.apart).2.2 t ht .opening rfl hcloses
  cases hopens

theorem Body.ofText_of_stopsAt (h : StopsAt isNameChar text) :
    Body.ofText text = .arithmetic text := by
  have hname : text.takeWhile isNameChar = [] :=
    @takeWhile_append_stopsAt _ isNameChar [] text (by simp) h
  unfold Body.ofText
  simp only [hname]
  split
  · simp
  · rfl

theorem WritesTokens.body?_eq {formula : String} (h : WritesTokens formula.toList tokens) :
    body? ("=" ++ formula) = some (.arithmetic (Text.upperAscii formula.toList)) := by
  have hname : StopsAt isNameChar (Text.upperAscii formula.toList) :=
    h.upperAscii.stopsAt_of_forall (List.all_iff_forall_prop.mp (by decide))
  have htext : ("=" ++ formula).toList = '=' :: formula.toList := by simp
  unfold body?
  rw [htext]
  simp only [Text.upper_of_ascii h.toNat_lt, Body.ofText_of_stopsAt hname]

/-- Texts of one length with the same tokens come to the same number. -/
theorem numberOf?_congr {text text' : String} (hl : text.utf8ByteSize = text'.utf8ByteSize)
    (ht : tokens? text.toList = tokens? text'.toList) : numberOf? text = numberOf? text' := by
  unfold numberOf? ofText?
  rw [hl, ht]

/-- The value of a formula that is an expression of numbers: the value of the expression if all its
exponents have signs, and otherwise zero. -/
theorem evaluate_of_writes {text : String} {e : Expression} (h : Writes text.toList e)
    (length : text.utf8ByteSize ≤ maxLength) (view : View) (anchor : Position) :
    evaluate ("=" ++ text) view anchor =
      .number (if ExponentsSigned text.toList then (numberOf? text).getD 0 else 0) := by
  obtain ⟨tokens, hw, hd⟩ := h
  have hupper := hw.upperAscii
  have hmarks : ∀ c ∈ Text.upperAscii text.toList, c ≠ '$' ∧ (Column.isLetter c → isMark c) := by
    have halphabet : ∀ c ∈ alphabet, c ≠ '$' ∧ (Column.isLetter c → isMark c) :=
      List.all_iff_forall_prop.mp (by decide)
    exact fun c hc => halphabet c (hupper.mem_alphabet c hc)
  have hsize : (String.ofList (Text.upperAscii text.toList)).utf8ByteSize = text.utf8ByteSize := by
    have htext := Text.utf8ByteSize_of_ascii hw.toNat_lt
    rw [String.ofList_toList] at htext
    rw [Text.utf8ByteSize_of_ascii hupper.toNat_lt, htext, Text.length_upperAscii]
  have hvalue : evaluate ("=" ++ text) view anchor =
      .number ((numberOf? (substitute (Text.upperAscii text.toList) view anchor)).getD 0) := by
    unfold evaluate evaluate?
    rw [hw.body?_eq]
    simp only [arithmetic, hsize, length, if_true]
  rw [hvalue]
  by_cases hsigned : ExponentsSigned text.toList
  · have hnumber : numberOf? (String.ofList (Text.upperAscii text.toList)) = numberOf? text := by
      refine numberOf?_congr hsize ?_
      rw [String.toList_ofList, hupper.tokens?_eq hd.apart, hw.tokens?_eq hd.apart]
    have hdollar : '$' ∉ Text.upperAscii text.toList := fun hc => (hmarks _ hc).1 rfl
    rw [if_pos hsigned, substitute_eq_self hdollar
      (hw.noDigitBehindLetter_upperAscii_iff.mpr hsigned), hnumber]
  · rw [if_neg hsigned, numberOf?_substitute_eq_none hupper hmarks
      fun hl => hsigned (hw.noDigitBehindLetter_upperAscii_iff.mp hl)]
    rfl

/-- A sheet with a seven in every cell. -/
def sevens : View := ⟨9, 9, fun _ => .number 7⟩

theorem evaluate_of_writes_signed :
    Writes "2*-1.5e+2".toList
        (.binary .multiply (.number 2) (.signed true (.number 150))) ∧
      "2*-1.5e+2".utf8ByteSize ≤ maxLength ∧
        evaluate ("=" ++ "2*-1.5e+2") sevens ⟨0, 0⟩ = .number (-300) := by
  have hw : Writes "2*-1.5e+2".toList
      (.binary .multiply (.number 2) (.signed true (.number 150))) :=
    writes_of_ofText? (by decide +kernel)
  refine ⟨hw, by decide, ?_⟩
  rw [evaluate_of_writes hw (by decide) sevens ⟨0, 0⟩]
  decide +kernel

/-- An exponent without a sign is taken for a reference: not all expressions of numbers have the
value that they have by themselves. -/
theorem not_evaluate_eq_numberOf? : ¬ ∀ (text : String) (e : Expression) (view : View)
    (anchor : Position), Writes text.toList e → text.utf8ByteSize ≤ maxLength →
      evaluate ("=" ++ text) view anchor = .number ((numberOf? text).getD 0) := by
  intro h
  have hw : Writes "1e5".toList (.number 100000) := writes_of_ofText? (by decide +kernel)
  have hvalue := h "1e5" (.number 100000) sevens ⟨0, 0⟩ hw (by decide)
  exact absurd hvalue (by decide +kernel)

end Spreadsheet.Formula
