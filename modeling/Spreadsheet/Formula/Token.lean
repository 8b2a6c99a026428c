import Spreadsheet.Numeric.Numeral

/-!
# Tokens of arithmetic

An arithmetic text is cut into numbers, operators and parentheses. Blanks between them carry no
meaning.
-/

namespace Spreadsheet.Formula

/-- A token of an arithmetic text. -/
inductive Token where
  | number (x : Float)
  | plus
  | minus
  | star
  | slash
  | opening
  | closing
deriving DecidableEq, Repr

/-- Whether a character only separates tokens. -/
def isSeparator (c : Char) : Bool := c = ' ' || c = '\t' || c = '\n' || c = '\r'

/-- The token that is written by a single character. -/
def Token.ofChar? : Char → Option Token
  | '+' => some .plus
  | '-' => some .minus
  | '*' => some .star
  | '/' => some .slash
  | '(' => some .opening
  | ')' => some .closing
  | _ => none

/-- Whether a character belongs to the digits of a number. -/
def isNumberChar (c : Char) : Bool := Numeric.isDigit c || c = '.'

/-- Splits off the text of a number: digits and points as far as they go, and then an exponent if
there is one. -/
def splitNumber (text : List Char) : List Char × List Char :=
  let rest := (Numeric.scanExponent (text.dropWhile isNumberChar)).2
  (text.take (text.length - rest.length), rest)

theorem length_splitNumber_lt {c : Char} {rest : List Char} (h : isNumberChar c) :
    (splitNumber (c :: rest)).2.length < (c :: rest).length := by
  have h₁ := Numeric.length_scanExponent_le (rest.dropWhile isNumberChar)
  have h₂ := Numeric.length_dropWhile_le isNumberChar rest
  simp only [splitNumber, List.dropWhile_cons, h, if_true, List.length_cons]
  omega

/-- The tokens of a text; `none` if part of it is no token. -/
def tokens? (text : List Char) : Option (List Token) :=
  match text with
  | [] => some []
  | c :: rest =>
    if isSeparator c then tokens? rest
    else
      match Token.ofChar? c with
      | some token => (tokens? rest).map (token :: ·)
      | none =>
        if _ : isNumberChar c then
          match Numeric.readNumber? (splitNumber (c :: rest)).1 with
          | some x => (tokens? (splitNumber (c :: rest)).2).map (.number x :: ·)
          | none => none
        else none
termination_by text.length
decreasing_by
  · simp
  · simp
  · exact length_splitNumber_lt (by assumption)

end Spreadsheet.Formula
