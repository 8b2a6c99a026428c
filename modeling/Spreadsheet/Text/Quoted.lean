import Spreadsheet.Text.Category
import Spreadsheet.Text.HexTable

/-!
# Quoted text

A text quoted for a message stands between double quotes. Quotes, backslashes and the usual control
characters are written with a backslash and a letter; every other character that is not printable
or that joins the one before it is written by its code, as in `\u{301}`.
-/

namespace Spreadsheet.Text

/-- Characters that extend the one before them without being non-spacing or enclosing marks. -/
def joiningRest : CodeSet := .ofTable "
  9BE 9D7 B3E B57 BBE BD7 CC0 CC2 CC7-CC8 CCA-CCB CD5-CD6 D3E D57 DCF DDF 1715 1734 1B35 1B3B
  1B3D 1B43-1B44 1BAA 1BF2-1BF3 200C 302E-302F A953 A9C0 111C0 11235 1133E 1134D
  11357 113B8 113C2 113C5 113C7-113C9 113CF 114B0 114BD 115AF 116B6 11930 1193D 11F41
  16FF0-16FF1 1D165-1D166 1D16D-1D172 E0020-E007F"

/-- Characters with the property Grapheme_Extend that are no letters. -/
def joining : CodeSet :=
  .unions [Category.nonspacingMark, Category.enclosingMark, joiningRest]

/-- Letters that fill the place of a letter in a Hangul syllable and show nothing. -/
def hangulFiller : CodeSet := .ofTable "115F-1160 3164 FFA0"

/-- Characters without a printed form: control, format, private and unassigned ones, fillers, and
all separators except the space. -/
def unprintable : CodeSet :=
  CodeSet.diff (.unions [Category.other, Category.separator, hangulFiller]) (.singleton 0x20)

/-- The digits of a number in base sixteen, lower case, without leading zeros. -/
def hexDigits (n : Nat) : List Char := Nat.toDigits 16 n

/-- A character as it is written inside quotes. -/
def quoteChar (c : Char) : List Char :=
  match c with
  | '\x00' => ['\\', '0']
  | '\t' => ['\\', 't']
  | '\r' => ['\\', 'r']
  | '\n' => ['\\', 'n']
  | '"' => ['\\', '"']
  | '\\' => ['\\', '\\']
  | c =>
    if joining.contains c.toNat || unprintable.contains c.toNat then
      ['\\', 'u', '\x7b'] ++ hexDigits c.toNat ++ ['\x7d']
    else [c]

/-- The text between double quotes. -/
def quoted (s : String) : String :=
  String.ofList ('"' :: s.toList.flatMap quoteChar ++ ['"'])

end Spreadsheet.Text
