import Spreadsheet.Json.Basic
import Spreadsheet.Numeric.Numeral

/-!
# Tokens of JSON

A JSON text is cut into marks, names, numbers and strings. Blanks between them carry no meaning.
-/

namespace Spreadsheet.Json

/-- A token of a JSON text. -/
inductive Token where
  | openArray
  | closeArray
  | openObject
  | closeObject
  | colon
  | comma
  | null
  | bool (b : Bool)
  | number (literal : List Char)
  | string (raw : List Char)
deriving DecidableEq, Repr

/-- Whether a character only separates tokens. -/
def isSeparator (c : Char) : Bool := c = ' ' || c = '\n' || c = '\r' || c = '\t'

/-! ## Numbers -/

/-- The whole part of a number: a zero, or digits that start with another one. -/
def scanWhole? (cs : List Char) : Option (List Char × List Char) :=
  match cs with
  | '0' :: rest => some (['0'], rest)
  | _ =>
    let digits := cs.takeWhile Numeric.isDigit
    if digits = [] then none else some (digits, cs.dropWhile Numeric.isDigit)

/-- Digits behind what has been read; there must be one. -/
def scanDigits? (before cs : List Char) : Option (List Char × List Char) :=
  let digits := cs.takeWhile Numeric.isDigit
  if digits = [] then none else some (before ++ digits, cs.dropWhile Numeric.isDigit)

/-- The fraction of a number, if it has one. -/
def scanFraction? : List Char → Option (List Char × List Char)
  | '.' :: rest => scanDigits? ['.'] rest
  | cs => some ([], cs)

/-- The exponent of a number, if it has one. -/
def scanExponent? : List Char → Option (List Char × List Char)
  | mark :: rest =>
    if mark = 'e' ∨ mark = 'E' then
      match rest with
      | '+' :: rest => scanDigits? [mark, '+'] rest
      | '-' :: rest => scanDigits? [mark, '-'] rest
      | rest => scanDigits? [mark] rest
    else some ([], mark :: rest)
  | [] => some ([], [])

/-- The number at the start of a text, and what follows it. -/
def scanNumber? (cs : List Char) : Option (List Char × List Char) := do
  let (sign, unsigned) := match cs with
    | '-' :: rest => (['-'], rest)
    | cs => ([], cs)
  let (whole, rest) ← scanWhole? unsigned
  let (fraction, rest) ← scanFraction? rest
  let (exponent, rest) ← scanExponent? rest
  return (sign ++ whole ++ fraction ++ exponent, rest)

/-! ## Strings -/

/-- What stands before the closing quote, and what follows it. The part that has been read is given
reversed. -/
def scanString? (read : List Char) : List Char → Option (List Char × List Char)
  | '"' :: rest => some (read.reverse, rest)
  | '\\' :: 'u' :: a :: b :: c :: d :: rest =>
    if (codeUnit? a b c d).isSome then
      scanString? (d :: c :: b :: a :: 'u' :: '\\' :: read) rest
    else none
  | '\\' :: c :: rest =>
    if (escapedChar? c).isSome then scanString? (c :: '\\' :: read) rest else none
  | c :: rest => if c = '\\' ∨ c.toNat < 0x20 then none else scanString? (c :: read) rest
  | [] => none

/-! ## All tokens -/

/-- The token at the start of a text, and what follows it. -/
def Token.scan? : List Char → Option (Token × List Char)
  | '[' :: rest => some (.openArray, rest)
  | ']' :: rest => some (.closeArray, rest)
  | '\x7b' :: rest => some (.openObject, rest)
  | '\x7d' :: rest => some (.closeObject, rest)
  | ':' :: rest => some (.colon, rest)
  | ',' :: rest => some (.comma, rest)
  | 'n' :: 'u' :: 'l' :: 'l' :: rest => some (.null, rest)
  | 't' :: 'r' :: 'u' :: 'e' :: rest => some (.bool true, rest)
  | 'f' :: 'a' :: 'l' :: 's' :: 'e' :: rest => some (.bool false, rest)
  | '"' :: rest => (scanString? [] rest).map fun (raw, rest) => (.string raw, rest)
  | cs => (scanNumber? cs).map fun (literal, rest) => (.number literal, rest)

/-- The tokens of a text, behind those that have been read, which are given reversed; `none` if part
of the text is no token. At most `fuel` characters are looked at. -/
def tokensFrom? : (fuel : Nat) → (read : List Token) → List Char → Option (List Token)
  | _, read, [] => some read.reverse
  | 0, _, _ :: _ => none
  | fuel + 1, read, c :: rest =>
    if isSeparator c then tokensFrom? fuel read rest
    else
      match Token.scan? (c :: rest) with
      | some (token, after) => tokensFrom? fuel (token :: read) after
      | none => none

/-- The tokens of a text; `none` if part of it is no token. -/
def tokens? (text : List Char) : Option (List Token) := tokensFrom? text.length [] text

end Spreadsheet.Json
