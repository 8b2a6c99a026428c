import Spreadsheet.Proofs.Formula.Writing

/-!
# What texts of arithmetic denote

`Denotes .sum text depth x` is the grammar once more, on texts and with the meaning of every rule
spelled out: the text is a sum, it nests `depth` deep and its value is `x`. It knows of no tokens, no
trees and no evaluator. A text comes to a number exactly if it is not too long, denotes that number,
does not nest too deep, and the number is finite (`numberOf?_eq_some_iff_denotes`).

Both sides meet in the trees of the grammar. The rules go over to tokens and trees one by one
(`Denotes.exists_derives`), and back once the text of the tokens is cut at the symbols between the
parts of the tree (`WritesTokens.exists_cut`).
-/

namespace Spreadsheet.Formula

open Numeric Expression

/-- The grammar on texts, with how deep a text nests and what its value is. Blanks can stand around
every phrase. -/
inductive Denotes : Phrase → List Char → Nat → Float → Prop where
  | number {text n} : WritesNumeral text n → Denotes .operand text 0 n.value
  | plus {text depth x} : Denotes .operand text depth x →
      Denotes .operand ('+' :: text) (depth + 1) x
  | minus {text depth x} : Denotes .operand text depth x →
      Denotes .operand ('-' :: text) (depth + 1) (-x)
  | group {text depth x} : Denotes .sum text depth x →
      Denotes .operand ('(' :: (text ++ [')'])) (depth + 1) x
  | factor {text depth x} : Denotes .operand text depth x → Denotes .product text depth x
  | multiply {before after m n x y} : Denotes .product before m x → Denotes .operand after n y →
      Denotes .product (before ++ '*' :: after) (max m n) (x * y)
  | divide {before after m n x y} : Denotes .product before m x → Denotes .operand after n y →
      Denotes .product (before ++ '/' :: after) (max m n) (x / y)
  | term {text depth x} : Denotes .product text depth x → Denotes .sum text depth x
  | add {before after m n x y} : Denotes .sum before m x → Denotes .product after n y →
      Denotes .sum (before ++ '+' :: after) (max m n) (x + y)
  | subtract {before after m n x y} : Denotes .sum before m x → Denotes .product after n y →
      Denotes .sum (before ++ '-' :: after) (max m n) (x - y)
  | blankBefore {phrase c text depth x} : c ∈ separators → Denotes phrase text depth x →
      Denotes phrase (c :: text) depth x
  | blankBehind {phrase c text depth x} : c ∈ separators → Denotes phrase text depth x →
      Denotes phrase (text ++ [c]) depth x

variable {c : Char} {text before after : List Char} {token : Token} {tokens others : List Token}
  {phrase : Phrase} {e : Expression} {depth : Nat} {x : Float}

/-! ## From texts to trees -/

theorem isSeparator_of_mem (h : c ∈ separators) : isSeparator c :=
  List.all_eq_true.mp (by decide : separators.all isSeparator) c h

theorem WritesTokens.append (h : WritesTokens before tokens) (h' : WritesTokens after others) :
    WritesTokens (before ++ after) (tokens ++ others) := by
  induction h with
  | nil => exact h'
  | blank hc _ ih => exact .blank hc ih
  | symbol hc _ ih => exact .symbol hc ih
  | number hn _ ih =>
    rw [List.append_assoc]
    exact .number hn ih

/-- A text that denotes something has a tree, with its depth and its value. -/
theorem Denotes.exists_derives (h : Denotes phrase text depth x) : ∃ tokens e,
    WritesTokens text tokens ∧ Derives phrase tokens e ∧ e.depth = depth ∧ e.value = x := by
  induction h with
  | @number text n hn =>
    have hw : WritesTokens (text ++ []) [.number n.value] := .number hn .nil
    rw [List.append_nil] at hw
    exact ⟨_, _, hw, .number n.value, rfl, rfl⟩
  | plus _ ih =>
    obtain ⟨tokens, e, hw, hd, rfl, rfl⟩ := ih
    exact ⟨.plus :: tokens, _, .symbol rfl hw, .signed rfl hd, rfl, rfl⟩
  | minus _ ih =>
    obtain ⟨tokens, e, hw, hd, rfl, rfl⟩ := ih
    exact ⟨.minus :: tokens, _, .symbol rfl hw, .signed rfl hd, rfl, rfl⟩
  | group _ ih =>
    obtain ⟨tokens, e, hw, hd, rfl, rfl⟩ := ih
    exact ⟨_, _, .symbol rfl (hw.append (.symbol rfl .nil)), .group hd, rfl, rfl⟩
  | factor _ ih =>
    obtain ⟨tokens, e, hw, hd, hdepth, hx⟩ := ih
    exact ⟨tokens, e, hw, .factor hd, hdepth, hx⟩
  | multiply _ _ ihl ihr =>
    obtain ⟨tokens, e, hw, hd, rfl, rfl⟩ := ihl
    obtain ⟨tokens', e', hw', hd', rfl, rfl⟩ := ihr
    exact ⟨_, _, hw.append (.symbol rfl hw'), .product hd rfl hd', rfl, rfl⟩
  | divide _ _ ihl ihr =>
    obtain ⟨tokens, e, hw, hd, rfl, rfl⟩ := ihl
    obtain ⟨tokens', e', hw', hd', rfl, rfl⟩ := ihr
    exact ⟨_, _, hw.append (.symbol rfl hw'), .product hd rfl hd', rfl, rfl⟩
  | term _ ih =>
    obtain ⟨tokens, e, hw, hd, hdepth, hx⟩ := ih
    exact ⟨tokens, e, hw, .term hd, hdepth, hx⟩
  | add _ _ ihl ihr =>
    obtain ⟨tokens, e, hw, hd, rfl, rfl⟩ := ihl
    obtain ⟨tokens', e', hw', hd', rfl, rfl⟩ := ihr
    exact ⟨_, _, hw.append (.symbol rfl hw'), .sum hd rfl hd', rfl, rfl⟩
  | subtract _ _ ihl ihr =>
    obtain ⟨tokens, e, hw, hd, rfl, rfl⟩ := ihl
    obtain ⟨tokens', e', hw', hd', rfl, rfl⟩ := ihr
    exact ⟨_, _, hw.append (.symbol rfl hw'), .sum hd rfl hd', rfl, rfl⟩
  | blankBefore hc _ ih =>
    obtain ⟨tokens, e, hw, hd, hdepth, hx⟩ := ih
    exact ⟨tokens, e, .blank (isSeparator_of_mem hc) hw, hd, hdepth, hx⟩
  | blankBehind hc _ ih =>
    obtain ⟨tokens, e, hw, hd, hdepth, hx⟩ := ih
    have hblank := hw.append (.blank (isSeparator_of_mem hc) .nil)
    rw [List.append_nil] at hblank
    exact ⟨tokens, e, hblank, hd, hdepth, hx⟩

/-! ## Texts cut at a token -/

/-- The character that writes a token other than a number. -/
def Token.symbol? : Token → Option Char
  | .number _ => none
  | .plus => some '+'
  | .minus => some '-'
  | .star => some '*'
  | .slash => some '/'
  | .opening => some '('
  | .closing => some ')'

theorem symbol?_of_ofChar? (h : Token.ofChar? c = some token) : token.symbol? = some c := by
  unfold Token.ofChar? at h
  split at h <;> first | (obtain rfl := Option.some.inj h; rfl) | cases h

/-- A text of tokens with a symbol among them is cut at the character of the symbol. -/
theorem WritesTokens.exists_cut (h : WritesTokens text (tokens ++ token :: others))
    (hc : token.symbol? = some c) : ∃ before after, text = before ++ c :: after ∧
      WritesTokens before tokens ∧ WritesTokens after others := by
  generalize hall : tokens ++ token :: others = all at h
  induction h generalizing tokens with
  | nil => cases (List.append_eq_nil_iff.mp hall).2
  | @blank b _ _ hb _ ih =>
    obtain ⟨before, after, rfl, hbefore, hafter⟩ := ih hall
    exact ⟨b :: before, after, rfl, .blank hb hbefore, hafter⟩
  | @symbol d t text _ hd h ih =>
    cases tokens with
    | nil =>
      obtain ⟨rfl, rfl⟩ := List.cons.inj hall
      obtain rfl : c = d := Option.some.inj (hc.symm.trans (symbol?_of_ofChar? hd))
      exact ⟨[], text, rfl, .nil, h⟩
    | cons t tokens =>
      obtain ⟨rfl, hrest⟩ := List.cons.inj hall
      obtain ⟨before, after, rfl, hbefore, hafter⟩ := ih hrest
      exact ⟨d :: before, after, rfl, .symbol hd hbefore, hafter⟩
  | @number numeral _ _ _ hn _ ih =>
    cases tokens with
    | nil =>
      obtain ⟨rfl, -⟩ := List.cons.inj hall
      cases hc
    | cons t tokens =>
      obtain ⟨rfl, hrest⟩ := List.cons.inj hall
      obtain ⟨before, after, rfl, hbefore, hafter⟩ := ih hrest
      exact ⟨numeral ++ before, after, (List.append_assoc ..).symm, .number hn hbefore, hafter⟩

/-- In front of the first symbol there are blanks. -/
theorem WritesTokens.exists_symbol (h : WritesTokens text (token :: tokens))
    (hc : token.symbol? = some c) : ∃ blanks after, text = blanks ++ c :: after ∧
      WritesTokens blanks [] ∧ WritesTokens after tokens :=
  @exists_cut c text token [] tokens h hc

/-! ## From trees to texts -/

theorem Denotes.blanksBefore {blanks : List Char} (hb : WritesTokens blanks [])
    (h : Denotes phrase text depth x) : Denotes phrase (blanks ++ text) depth x := by
  generalize hnil : ([] : List Token) = none at hb
  induction hb with
  | nil => exact h
  | blank hc _ ih => exact .blankBefore (mem_separators hc) (ih hnil)
  | symbol | number => cases hnil

theorem Denotes.blanksBehind {blanks : List Char} (hb : WritesTokens blanks [])
    (h : Denotes phrase text depth x) : Denotes phrase (text ++ blanks) depth x := by
  generalize hnil : ([] : List Token) = none at hb
  induction hb generalizing text with
  | nil => rwa [List.append_nil]
  | @blank c blanks _ hc _ ih =>
    rw [List.append_cons]
    exact ih (h.blankBehind (mem_separators hc)) hnil
  | symbol | number => cases hnil

theorem denotes_number (h : WritesTokens text [.number x]) : Denotes .operand text 0 x := by
  generalize hall : [Token.number x] = all at h
  induction h with
  | nil => cases hall
  | blank hc _ ih => exact .blankBefore (mem_separators hc) (ih hall)
  | symbol hc =>
    obtain ⟨rfl, -⟩ := List.cons.inj hall
    cases symbol?_of_ofChar? hc
  | number hn h _ =>
    obtain ⟨hx, rfl⟩ := List.cons.inj hall
    obtain rfl := Token.number.inj hx
    exact (Denotes.number hn).blanksBehind h

/-- A text of the tokens of a tree denotes the value of the tree, and nests as deep. -/
theorem Expression.Derives.denotes (h : Derives phrase tokens e) (hw : WritesTokens text tokens) :
    Denotes phrase text e.depth e.value := by
  induction h generalizing text with
  | number x => exact denotes_number hw
  | @signed sign negative tokens e hs _ ih =>
    cases sign with
    | plus =>
      obtain rfl := Option.some.inj hs
      obtain ⟨blanks, after, rfl, hb, ha⟩ := hw.exists_symbol rfl
      exact (Denotes.plus (ih ha)).blanksBefore hb
    | minus =>
      obtain rfl := Option.some.inj hs
      obtain ⟨blanks, after, rfl, hb, ha⟩ := hw.exists_symbol rfl
      exact (Denotes.minus (ih ha)).blanksBefore hb
    | _ => cases hs
  | group _ ih =>
    obtain ⟨first, rest, rfl, hfirst, hrest⟩ := hw.exists_cut rfl
    obtain ⟨blanks, inner, rfl, hblanks, hinner⟩ := hfirst.exists_symbol rfl
    have htext : blanks ++ '(' :: inner ++ ')' :: rest =
        blanks ++ ('(' :: (inner ++ [')']) ++ rest) := by
      simp
    rw [htext]
    exact ((ih hinner).group.blanksBehind hrest).blanksBefore hblanks
  | factor _ ih => exact .factor (ih hw)
  | @product _ token _ _ _ _ _ ho _ ihl ihr =>
    cases token with
    | star =>
      obtain rfl := Option.some.inj ho
      obtain ⟨left, right, rfl, hleft, hright⟩ := hw.exists_cut rfl
      exact (ihl hleft).multiply (ihr hright)
    | slash =>
      obtain rfl := Option.some.inj ho
      obtain ⟨left, right, rfl, hleft, hright⟩ := hw.exists_cut rfl
      exact (ihl hleft).divide (ihr hright)
    | _ => cases ho
  | term _ ih => exact .term (ih hw)
  | @sum _ token _ _ _ _ _ ho _ ihl ihr =>
    cases token with
    | plus =>
      obtain rfl := Option.some.inj ho
      obtain ⟨left, right, rfl, hleft, hright⟩ := hw.exists_cut rfl
      exact (ihl hleft).add (ihr hright)
    | minus =>
      obtain rfl := Option.some.inj ho
      obtain ⟨left, right, rfl, hleft, hright⟩ := hw.exists_cut rfl
      exact (ihl hleft).subtract (ihr hright)
    | _ => cases ho

/-! ## Numbers of texts -/

theorem denotes_iff : Denotes .sum text depth x ↔
    ∃ e, Writes text e ∧ e.depth = depth ∧ e.value = x := by
  constructor
  · intro h
    obtain ⟨tokens, e, hw, hd, hdepth, hx⟩ := h.exists_derives
    exact ⟨e, ⟨tokens, hw, hd⟩, hdepth, hx⟩
  · rintro ⟨e, ⟨tokens, hw, hd⟩, rfl, rfl⟩
    exact hd.denotes hw

/-- A text comes to a number exactly if it is at most 8192 bytes long and is a sum of the grammar
that nests at most 64 deep and has a finite value; the number is that value. -/
theorem numberOf?_eq_some_iff_denotes {text : String} {x : Float} :
    numberOf? text = some x ↔ text.utf8ByteSize ≤ 8192 ∧
      ∃ depth, depth ≤ 64 ∧ Denotes .sum text.toList depth x ∧ x.isFinite := by
  rw [numberOf?_eq_some_iff_writes]
  refine and_congr_right fun _ => ?_
  constructor
  · rintro ⟨e, hw, hdepth, hfinite, rfl⟩
    exact ⟨e.depth, hdepth, denotes_iff.mpr ⟨e, hw, rfl, rfl⟩, hfinite⟩
  · rintro ⟨depth, hdepth, hd, hfinite⟩
    obtain ⟨e, hw, rfl, rfl⟩ := denotes_iff.mp hd
    exact ⟨e, hw, hdepth, hfinite, rfl⟩

theorem denotes_digit (h : isDigit c) : Denotes .operand [c] 0 (Numeral.mk [c] [] 0).value :=
  .number (.whole ⟨List.cons_ne_nil c [], by simpa using h⟩ .none)

/-- Differences are taken from the left, products first: nine less one, and then less twice three. -/
theorem denotes_chain : Denotes .sum "9-1 - 2*3".toList 0 (9 - 1 - 2 * 3) := by
  have hnine : Denotes .sum ['9'] 0 9 := .term (.factor (denotes_digit rfl))
  have hone : Denotes .product ['1'] 0 1 := .factor (denotes_digit rfl)
  have hproduct : Denotes .product ['2', '*', '3'] 0 (2 * 3) :=
    .multiply (.factor (denotes_digit rfl)) (denotes_digit rfl)
  exact .subtract (.blankBehind (by decide) (.subtract hnine hone))
    (.blankBefore (by decide) hproduct)

theorem numberOf?_eq_some_iff_denotes_of_chain :
    Denotes .sum "9-1 - 2*3".toList 0 (9 - 1 - 2 * 3) ∧ numberOf? "9-1 - 2*3" = some 2 := by
  have hvalue : (9 - 1 - 2 * 3 : Float) = 2 := by decide +kernel
  refine ⟨denotes_chain, ?_⟩
  rw [← hvalue]
  exact numberOf?_eq_some_iff_denotes.mpr
    ⟨by decide, 0, by decide, denotes_chain, by decide +kernel⟩

end Spreadsheet.Formula
