import Mathlib.Data.List.Chain
import Spreadsheet.Proofs.Formula.Splicing

/-!
# Texts of expressions

`Writes text e` says that a text is an expression of the grammar

    Sum     ::= Product (("+" | "-") Product)*
    Product ::= Operand (("*" | "/") Operand)*
    Operand ::= Number | ("+" | "-") Operand | "(" Sum ")"

with blanks anywhere between its tokens, and with the numerals of `WritesNumeral` as numbers. It
knows nothing of how a text is cut: a text such as `12` is also two numerals side by side. But the
grammar of expressions never has two operands side by side (`Derives.apart`), and where none are,
the longest numeral is the right one (`WritesTokens.tokens?_eq`). So a text comes to a number
exactly if it is an expression that does not nest too deep and has a finite value, and the number is
that value (`numberOf?_eq_some_iff_writes`).
-/

namespace Spreadsheet.Formula

open Numeric Expression

/-! ## Texts of tokens -/

/-- The texts of lists of tokens. -/
inductive WritesTokens : List Char → List Token → Prop where
  | nil : WritesTokens [] []
  | blank {c text tokens} : isSeparator c → WritesTokens text tokens →
      WritesTokens (c :: text) tokens
  | symbol {c token text tokens} : Token.ofChar? c = some token → WritesTokens text tokens →
      WritesTokens (c :: text) (token :: tokens)
  | number {numeral n text tokens} : WritesNumeral numeral n → WritesTokens text tokens →
      WritesTokens (numeral ++ text) (.number n.value :: tokens)

/-- Whether a text is an expression. -/
def Writes (text : List Char) (e : Expression) : Prop :=
  ∃ tokens, WritesTokens text tokens ∧ Derives .sum tokens e

variable {c : Char} {text before after : List Char} {tokens : List Token} {e : Expression}

/-! ## What is cut into tokens is a text of them -/

theorem splitNumber_append_parts (text : List Char) :
    (splitNumber text).1 ++ (splitNumber text).2 = text := by
  obtain ⟨tail, htail, -⟩ := writesExponent_scanExponent (text.dropWhile isNumberChar)
  have htext : text = (text.takeWhile isNumberChar ++ tail) ++ (splitNumber text).2 := by
    rw [List.append_assoc]
    simp only [splitNumber]
    rw [← htail, List.takeWhile_append_dropWhile]
  have hlength := congrArg List.length htext
  rw [List.length_append] at hlength
  have htake : (splitNumber text).1 = text.takeWhile isNumberChar ++ tail := by
    have hdef : (splitNumber text).1 = text.take (text.length - (splitNumber text).2.length) := rfl
    rw [hdef, hlength, Nat.add_sub_cancel]
    conv => lhs; arg 2; rw [htext]
    rw [List.take_left]
  rw [htake, ← htext]

theorem toNat_lt_of_isNumberChar (h : isNumberChar c) : c.toNat < 58 := by
  rcases Bool.or_eq_true_iff.mp h with h | h
  · have := (isDigit_iff.mp h).2
    omega
  · rw [decide_eq_true_iff.mp h]
    decide

/-- The name of a value without digits starts with no digit and no point. -/
theorem namedNumber?_eq_none (h : isNumberChar c) (after : List Char) :
    namedNumber? (c :: after) = none := by
  have hc := toNat_lt_of_isNumberChar h
  have hlower : c.toLower = c := by
    unfold Char.toLower
    rw [dif_neg]
    rintro ⟨hA, -⟩
    have hA : 65 ≤ c.toNat := hA
    omega
  have hne : ∀ {d : Char} {name : List Char}, 58 ≤ d.toNat →
      String.ofList (c :: after.map Char.toLower) ≠ String.ofList (d :: name) := by
    intro d name hd h
    rw [(List.cons.inj (String.ofList_injective h)).1] at hc
    omega
  simp only [namedNumber?, List.map_cons, hlower]
  rw [if_neg (not_or.mpr ⟨hne (by decide), hne (by decide)⟩), if_neg (hne (by decide))]

/-- A text that starts with a digit or a point and reads as a number is a numeral. -/
theorem writesNumeral_of_readNumber? (h : isNumberChar c) {x : Float}
    (hx : readNumber? (c :: after) = some x) :
    ∃ n, WritesNumeral (c :: after) n ∧ x = n.value := by
  simp only [readNumber?, splitSign_of_isNumberChar h, namedNumber?_eq_none h] at hx
  split at hx
  · rename_i n hn
    exact ⟨n, scan?_eq_some_iff.mp hn, (Option.some.inj hx).symm⟩
  · cases hx
  · cases hx

theorem writesTokens_of_tokens? : ∀ {tokens}, tokens? text = some tokens →
    WritesTokens text tokens := by
  fun_induction tokens? text with
  | case1 =>
    intro tokens h
    obtain rfl := Option.some.inj h
    exact .nil
  | case2 c rest hs ih =>
    intro tokens h
    exact .blank hs (ih h)
  | case3 c rest hs token ht ih =>
    intro tokens h
    obtain ⟨others, ho, rfl⟩ := Option.map_eq_some_iff.mp h
    exact .symbol ht (ih ho)
  | case4 c rest hs ht hn x hx ih =>
    intro tokens h
    obtain ⟨others, ho, rfl⟩ := Option.map_eq_some_iff.mp h
    have hparts := splitNumber_append_parts (c :: rest)
    have hlength : (splitNumber (c :: rest)).2.length < (c :: rest).length :=
      length_splitNumber_lt hn
    -- The number takes at least a character, and the first one tells that it is no name.
    generalize splitNumber (c :: rest) = parts at *
    obtain ⟨first, second⟩ := parts
    cases first with
    | nil =>
      rw [← hparts] at hlength
      exact absurd hlength (Nat.lt_irrefl _)
    | cons d first =>
      obtain rfl := (List.cons.inj hparts).1
      obtain ⟨n, hw, rfl⟩ := writesNumeral_of_readNumber? hn hx
      rw [← hparts]
      exact .number hw (ih ho)
  | case5 c rest hs ht hn hx =>
    intro tokens h
    cases h
  | case6 c rest hs ht hn =>
    intro tokens h
    cases h

/-! ## Operands side by side -/

/-- Whether a token other than a sign can start an operand. -/
def Token.opens : Token → Bool
  | .number _ | .opening => true
  | _ => false

/-- Whether a token can end an operand. -/
def Token.closes : Token → Bool
  | .number _ | .closing => true
  | _ => false

/-- Whether there is a sign or an operator between any two operands. -/
def Apart (tokens : List Token) : Prop := tokens.IsChain fun t u => t.closes → u.opens = false

theorem Apart.cons {token : Token} (h : Apart tokens) (ht : token.closes = false) :
    Apart (token :: tokens) := by
  refine List.IsChain.cons h fun _ _ hc => ?_
  rw [ht] at hc
  cases hc

theorem Apart.append {first last : List Token} {token : Token} (h : Apart first)
    (h' : Apart (token :: last)) (ht : token.opens = false) : Apart (first ++ token :: last) := by
  refine List.IsChain.append h h' fun _ _ u hu _ => ?_
  simp only [List.head?_cons, Option.mem_def, Option.some.injEq] at hu
  rwa [← hu]

theorem not_closes_of_negative? {token : Token} {negative : Bool}
    (h : token.negative? = some negative) : token.closes = false := by
  cases token <;> first | rfl | cases h

theorem apart_of_operator {token : Token} {operator : Operator}
    (h : token.productOperator? = some operator ∨ token.sumOperator? = some operator) :
    token.opens = false ∧ token.closes = false := by
  cases token <;> first | exact ⟨rfl, rfl⟩ | rcases h with h | h <;> cases h

theorem Expression.Derives.apart {phrase : Phrase} (h : Derives phrase tokens e) :
    Apart tokens := by
  -- At every seam of the grammar stands a token that ends no operand or one that starts none.
  induction h with
  | number x => exact .singleton _
  | signed hs _ ih => exact ih.cons (not_closes_of_negative? hs)
  | @group tokens _ _ ih =>
    have closed : Apart (tokens ++ [.closing]) := ih.append (.singleton _) rfl
    exact closed.cons rfl
  | factor _ ih => exact ih
  | product _ ho _ ihl ihr =>
    obtain ⟨hopens, hcloses⟩ := apart_of_operator (.inl ho)
    exact ihl.append (ihr.cons hcloses) hopens
  | term _ ih => exact ih
  | sum _ ho _ ihl ihr =>
    obtain ⟨hopens, hcloses⟩ := apart_of_operator (.inr ho)
    exact ihl.append (ihr.cons hcloses) hopens

/-! ## A text of tokens is cut into them -/

/-- A stretch of a kind stops at a text of tokens that starts with no operand, if no separator and
no symbol is of the kind. -/
theorem WritesTokens.stopsAt {p : Char → Bool} (hp : ∀ c ∈ separators ++ symbols, p c = false)
    (h : WritesTokens text tokens) (hn : ∀ t ∈ tokens.head?, t.opens = false) :
    StopsAt p text := by
  cases h with
  | nil => exact stopsAt_nil p
  | blank hc _ => exact stopsAt_cons (hp _ (List.mem_append_left _ (mem_separators hc))) _
  | symbol hc _ => exact stopsAt_cons (hp _ (List.mem_append_right _ (mem_symbols hc))) _
  | number _ _ => exact absurd (hn _ rfl) (by simp [Token.opens])

/-- A text of tokens is cut into them if no two operands stand side by side. -/
theorem WritesTokens.tokens?_eq (h : WritesTokens text tokens) (apart : Apart tokens) :
    tokens? text = some tokens := by
  induction h with
  | nil => rw [tokens?]
  | @blank c text tokens hs _ ih =>
    rw [tokens?]
    simp only [hs, if_true, ih apart]
  | symbol ht _ ih => rw [tokens?_token ht, ih (List.isChain_cons.mp apart).2, Option.map_some]
  | number hw h ih =>
    obtain ⟨hn, apart⟩ := List.isChain_cons.mp apart
    -- What follows starts with no operand, so nothing in it could lengthen the numeral.
    have hn := fun t ht => hn t ht rfl
    have hnumber : StopsAt isNumberChar _ := h.stopsAt (List.all_iff_forall_prop.mp (by decide)) hn
    have hmark : StopsAt isMark _ := h.stopsAt (List.all_iff_forall_prop.mp (by decide)) hn
    rw [tokens?_of_writesNumeral hw hnumber hmark, ih apart, Option.map_some]

/-! ## Expressions -/

theorem writes_iff :
    Writes text e ↔ ∃ tokens, tokens? text = some tokens ∧ Derives .sum tokens e := by
  constructor
  · rintro ⟨tokens, hw, hd⟩
    exact ⟨tokens, hw.tokens?_eq hd.apart, hd⟩
  · rintro ⟨tokens, ht, hd⟩
    exact ⟨tokens, writesTokens_of_tokens? ht, hd⟩

theorem writes_of_ofText? {text : String} (h : ofText? text = some e) : Writes text.toList e := by
  unfold ofText? at h
  split at h
  · obtain ⟨tokens, ht, he⟩ := Option.bind_eq_some_iff.mp h
    exact writes_iff.mpr ⟨tokens, ht, (ofTokens?_eq_some_iff.mp he).1⟩
  · cases h

/-- A text is at most one expression. -/
theorem Writes.unique {e' : Expression} (h : Writes text e) (h' : Writes text e') : e = e' := by
  obtain ⟨tokens, ht, hd⟩ := writes_iff.mp h
  obtain ⟨tokens', ht', hd'⟩ := writes_iff.mp h'
  obtain rfl : tokens = tokens' := Option.some.inj (ht.symm.trans ht')
  exact hd.unique hd'

/-- A text comes to a number exactly if it is not too long and is an expression that does not nest
too deep and has a finite value; the number is that value. -/
theorem numberOf?_eq_some_iff_writes {text : String} {x : Float} :
    numberOf? text = some x ↔ text.utf8ByteSize ≤ maxLength ∧
      ∃ e, Writes text.toList e ∧ e.depth ≤ maxDepth ∧ e.value.isFinite ∧ x = e.value := by
  by_cases length : text.utf8ByteSize ≤ maxLength
  · rw [numberOf?_eq_some_iff length]
    constructor
    · rintro ⟨tokens, e, ht, he, hf, hx⟩
      obtain ⟨hd, depth⟩ := ofTokens?_eq_some_iff.mp he
      exact ⟨length, e, writes_iff.mpr ⟨tokens, ht, hd⟩, depth, hf, hx⟩
    · rintro ⟨-, e, hw, depth, hf, hx⟩
      obtain ⟨tokens, ht, hd⟩ := writes_iff.mp hw
      exact ⟨tokens, e, ht, ofTokens?_eq_some_iff.mpr ⟨hd, depth⟩, hf, hx⟩
  · have hn : numberOf? text = none := by
      unfold numberOf? ofText?
      rw [if_neg length]
      rfl
    simp [hn, length]

end Spreadsheet.Formula
