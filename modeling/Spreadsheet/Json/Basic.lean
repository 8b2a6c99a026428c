import Spreadsheet.Numeric.Layout
import Spreadsheet.Text.HexTable

/-!
# JSON values

JSON values as they are written: numbers and strings are kept in their written form, and what they
stand for is asked of them. A number may be out of range, and a string may hold half of a surrogate
pair; as long as nobody asks, neither matters.
-/

namespace Spreadsheet

/-- A JSON value. -/
inductive Json where
  | null
  | bool (b : Bool)
  | number (literal : List Char)
  /-- A string, given by what stands between its quotes. -/
  | string (raw : List Char)
  | array (items : List Json)
  | object (members : List (List Char × Json))
deriving Inhabited

namespace Json

/-! ## Strings -/

/-- The four digits of an escape in base sixteen. -/
def fourHexDigits (n : Nat) : List Char :=
  let digits := Nat.toDigits 16 n
  List.replicate (4 - digits.length) '0' ++ digits

/-- A character as it is written between quotes. -/
def escapeChar (c : Char) : List Char :=
  match c with
  | '"' => ['\\', '"']
  | '\\' => ['\\', '\\']
  | '\x08' => ['\\', 'b']
  | '\x0c' => ['\\', 'f']
  | '\n' => ['\\', 'n']
  | '\r' => ['\\', 'r']
  | '\t' => ['\\', 't']
  | c => if c.toNat < 0x20 then ['\\', 'u'] ++ fourHexDigits c.toNat else [c]

/-- A text as it is written between quotes. -/
def escape (text : List Char) : List Char := text.flatMap escapeChar

/-- The character that a letter stands for behind a backslash. -/
def escapedChar? : Char → Option Char
  | '"' => some '"'
  | '\\' => some '\\'
  | '/' => some '/'
  | 'b' => some '\x08'
  | 'f' => some '\x0c'
  | 'n' => some '\n'
  | 'r' => some '\r'
  | 't' => some '\t'
  | _ => none

/-- The number that four digits write in base sixteen. -/
def codeUnit? (a b c d : Char) : Option Nat := do
  let a ← Text.hexDigit? a
  let b ← Text.hexDigit? b
  let c ← Text.hexDigit? c
  let d ← Text.hexDigit? d
  return ((a * 16 + b) * 16 + c) * 16 + d

/-- The character that two halves of a surrogate pair make. -/
def joinSurrogates? (high low : Nat) : Option Char :=
  if 0xD800 ≤ high ∧ high ≤ 0xDBFF ∧ 0xDC00 ≤ low ∧ low ≤ 0xDFFF then
    some (Char.ofNat (0x10000 + (high - 0xD800) * 0x400 + (low - 0xDC00)))
  else none

/-- The text that is written between quotes; `none` if it holds half of a surrogate pair or what is
no escape. -/
def unescape? : List Char → Option (List Char)
  | '\\' :: 'u' :: a :: b :: c :: d :: '\\' :: 'u' :: e :: f :: g :: h :: rest =>
    match codeUnit? a b c d, codeUnit? e f g h with
    | some unit, some next =>
      match joinSurrogates? unit next with
      | some char => (unescape? rest).map (char :: ·)
      | none =>
        if unit.isValidChar then
          (unescape? ('\\' :: 'u' :: e :: f :: g :: h :: rest)).map (Char.ofNat unit :: ·)
        else none
    | _, _ => none
  | '\\' :: 'u' :: a :: b :: c :: d :: rest =>
    match codeUnit? a b c d with
    | some unit =>
      if unit.isValidChar then (unescape? rest).map (Char.ofNat unit :: ·) else none
    | none => none
  | '\\' :: c :: rest =>
    match escapedChar? c with
    | some char => (unescape? rest).map (char :: ·)
    | none => none
  | c :: rest => if c = '\\' then none else (unescape? rest).map (c :: ·)
  | [] => some []

/-- The string with the given text. -/
def ofText (text : String) : Json := .string (escape text.toList)

/-! ## Numbers -/

/-- Numbers in JSON: the fewest digits, of equally near ones the even; positional from `10 ^ -5` to
below `10 ^ 16`, and then with at least one place. -/
def numberLayout : Numeric.Layout where
  positional := some (-5, 15)
  pointZero := true
  tie := .even
  nan := "null"
  infinity := "null"

/-- The number with the given value. What is not finite is written as null. -/
def ofFloat (x : Float) : Json :=
  if x.isFinite then .number (numberLayout.render x).toList else .null

/-- The number that is an index. -/
def ofIndex (n : Nat) : Json := .number (Numeric.digitChars n)

end Json

end Spreadsheet
