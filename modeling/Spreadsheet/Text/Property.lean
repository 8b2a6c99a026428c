import Spreadsheet.Text.CodeSet
import Spreadsheet.Text.Category
import Spreadsheet.Text.Casing
import Spreadsheet.Text.Blank
import Spreadsheet.Text.Repertoire
import Spreadsheet.Text.Script

/-!
# Named sets of characters

The sets that a pattern can name: the classes of word characters, digits and white space, the
general categories with their short and long names, the scripts, and the further properties listed
here. A name is matched without regard to case, spaces, hyphens and low lines. Patterns know the
characters of an earlier version of the Unicode Standard than the rest of the library does.
-/

namespace Spreadsheet.Text

/-- Alphabetic symbols that are no letters. -/
def circledLetter : CodeSet := .ofTable "
  24B6-24E9 1F130-1F149 1F150-1F169 1F170-1F189"

/-- Marks that are alphabetic: vowel signs and the like. -/
def alphabeticMark : CodeSet := .ofTable "
  345 363-36F 5B0-5BD 5BF 5C1-5C2 5C4-5C5 5C7 610-61A 64B-657 659-65F 670 6D6-6DC 6E1-6E4
  6E7-6E8 6ED 711 730-73F 7A6-7B0 816-817 81B-823 825-827 829-82C 897 8D4-8DF 8E3-8E9 8F0-903
  93A-93B 93E-94C 94E-94F 955-957 962-963 981-983 9BE-9C4 9C7-9C8 9CB-9CC 9D7 9E2-9E3 A01-A03
  A3E-A42 A47-A48 A4B-A4C A51 A70-A71 A75 A81-A83 ABE-AC5 AC7-AC9 ACB-ACC AE2-AE3 AFA-AFC
  B01-B03 B3E-B44 B47-B48 B4B-B4C B56-B57 B62-B63 B82 BBE-BC2 BC6-BC8 BCA-BCC BD7 C00-C04
  C3E-C44 C46-C48 C4A-C4C C55-C56 C62-C63 C81-C83 CBE-CC4 CC6-CC8 CCA-CCC CD5-CD6 CE2-CE3 CF3
  D00-D03 D3E-D44 D46-D48 D4A-D4C D57 D62-D63 D81-D83 DCF-DD4 DD6 DD8-DDF DF2-DF3 E31 E34-E3A
  E4D EB1 EB4-EB9 EBB-EBC ECD F71-F83 F8D-F97 F99-FBC 102B-1036 1038 103B-103E 1056-1059
  105E-1060 1062-1064 1067-106D 1071-1074 1082-108D 108F 109A-109D 1712-1713 1732-1733
  1752-1753 1772-1773 17B6-17C8 1885-1886 18A9 1920-192B 1930-1938 1A17-1A1B 1A55-1A5E
  1A61-1A74 1ABF-1AC0 1ACC-1ACE 1B00-1B04 1B35-1B43 1B80-1B82 1BA1-1BA9 1BAC-1BAD 1BE7-1BF1
  1C24-1C36 1DD3-1DF4 2DE0-2DFF A674-A67B A69E-A69F A802 A80B A823-A827 A880-A881 A8B4-A8C3
  A8C5 A8FF A926-A92A A947-A952 A980-A983 A9B4-A9BF A9E5 AA29-AA36 AA43 AA4C-AA4D AA7B-AA7D
  AAB0 AAB2-AAB4 AAB7-AAB8 AABE AAEB-AAEF AAF5 ABE3-ABEA FB1E 10376-1037A 10A01-10A03
  10A05-10A06 10A0C-10A0F 10D24-10D27 10D69 10EAB-10EAC 10EFA-10EFC 11000-11002 11038-11045
  11073-11074 11080-11082 110B0-110B8 110C2 11100-11102 11127-11132 11145-11146 11180-11182
  111B3-111BF 111CE-111CF 1122C-11234 11237 1123E 11241 112DF-112E8 11300-11303 1133E-11344
  11347-11348 1134B-1134C 11357 11362-11363 113B8-113C0 113C2 113C5 113C7-113CA 113CC-113CD
  11435-11441 11443-11445 114B0-114C1 115AF-115B5 115B8-115BE 115DC-115DD 11630-1163E 11640
  116AB-116B5 1171D-1172A 1182C-11838 11930-11935 11937-11938 1193B-1193C 11940 11942
  119D1-119D7 119DA-119DF 119E4 11A01-11A0A 11A35-11A39 11A3B-11A3E 11A51-11A5B 11A8A-11A97
  11B60-11B67 11C2F-11C36 11C38-11C3E 11C92-11CA7 11CA9-11CB6 11D31-11D36 11D3A 11D3C-11D3D
  11D3F-11D41 11D43 11D47 11D8A-11D8E 11D90-11D91 11D93-11D96 11EF3-11EF6 11F00-11F01 11F03
  11F34-11F3A 11F3E-11F40 1611E-1612E 16F4F 16F51-16F87 16F8F-16F92 16FF0-16FF1 1BC9E
  1E000-1E006 1E008-1E018 1E01B-1E021 1E023-1E024 1E026-1E02A 1E08F 1E6E3 1E6E6 1E6EE-1E6EF
  1E6F5 1E947"

/-- White space, as `isBlank` has it. -/
def blankSet : CodeSet :=
  .ofTable "9-D 20 85 A0 1680 2000-200A 2028-2029 202F 205F 3000"

/-- Characters with the property Alphabetic. -/
def alphabetic : CodeSet :=
  .unions [Category.letter, Category.letterNumber, alphabeticMark, circledLetter]

/-- Word characters: alphabetic ones, marks, decimal digits, connecting punctuation and the two
joiners. -/
def wordSet : CodeSet :=
  CodeSet.earlier <| .unions [alphabetic, Category.mark, Category.decimalNumber,
    Category.connectorPunctuation, .ofTable "200C-200D"]

/-- Digits: decimal ones of all scripts. -/
def digitSet : CodeSet := Category.decimalNumber.earlier

/-- Word characters of ASCII. -/
def asciiWordSet : CodeSet := .ofTable "30-39 41-5A 5F 61-7A"

/-- White space of ASCII. -/
def asciiBlankSet : CodeSet := .ofTable "9-D 20"

/-- Digits of ASCII. -/
def asciiDigitSet : CodeSet := .ofTable "30-39"

/-- The general category with this name, in lower case; the sets of all, of the ASCII and of the
assigned characters count as categories. -/
def categoryNamed? (name : String) : Option CodeSet :=
  CodeSet.earlier <$> match name with
  | "any" => some .all
  | "ascii" => some (.ofTable "0-7F")
  | "assigned" => some Category.unassigned.complement
  | "l" | "letter" => some Category.letter
  | "lc" | "casedletter" => some (Category.casedLetter.union formerLowercase)
  | "m" | "mark" | "combiningmark" => some Category.mark
  | "n" | "number" => some Category.number
  | "p" | "punctuation" | "punct" => some Category.punctuation
  | "s" | "symbol" => some Category.symbol
  | "z" | "separator" => some Category.separator
  | "c" | "other" => some Category.other
  | "cn" | "unassigned" => some Category.unassigned
  | "lu" | "uppercaseletter" => some Category.uppercaseLetter
  | "ll" | "lowercaseletter" => some (Category.lowercaseLetter.union formerLowercase)
  | "lt" | "titlecaseletter" => some Category.titlecaseLetter
  | "lm" | "modifierletter" => some Category.modifierLetter
  | "lo" | "otherletter" => some (Category.otherLetter.diff formerLowercase)
  | "mn" | "nonspacingmark" => some Category.nonspacingMark
  | "mc" | "spacingmark" => some Category.spacingMark
  | "me" | "enclosingmark" => some Category.enclosingMark
  | "nd" | "decimalnumber" | "digit" => some Category.decimalNumber
  | "nl" | "letternumber" => some Category.letterNumber
  | "no" | "othernumber" => some Category.otherNumber
  | "pc" | "connectorpunctuation" => some Category.connectorPunctuation
  | "pd" | "dashpunctuation" => some Category.dashPunctuation
  | "ps" | "openpunctuation" => some Category.openPunctuation
  | "pe" | "closepunctuation" => some Category.closePunctuation
  | "pi" | "initialpunctuation" => some Category.initialPunctuation
  | "pf" | "finalpunctuation" => some Category.finalPunctuation
  | "po" | "otherpunctuation" => some Category.otherPunctuation
  | "sm" | "mathsymbol" => some Category.mathSymbol
  | "sc" | "currencysymbol" => some Category.currencySymbol
  | "sk" | "modifiersymbol" => some Category.modifierSymbol
  | "so" | "othersymbol" => some Category.otherSymbol
  | "zs" | "spaceseparator" => some Category.spaceSeparator
  | "zl" | "lineseparator" => some Category.lineSeparator
  | "zp" | "paragraphseparator" => some Category.paragraphSeparator
  | "cc" | "control" | "cntrl" => some Category.control
  | "cf" | "format" => some Category.format
  | "co" | "privateuse" => some Category.privateUse
  | _ => none

/-- Upper-case symbols that are no letters. -/
def otherUppercase : CodeSet := .ofTable "
  2160-216F 24B6-24CF 1F130-1F149 1F150-1F169 1F170-1F189"

/-- Lower-case symbols and modifiers that are no lower-case letters. -/
def otherLowercase : CodeSet := .ofTable "
  AA BA 2B0-2B8 2C0-2C1 2E0-2E4 345 37A 10FC 1D2C-1D6A 1D78 1D9B-1DBF 2071 207F 2090-209C
  2170-217F 24D0-24E9 2C7C-2C7D A69C-A69D A770 A7F1-A7F4 A7F8-A7F9 AB5C-AB5F AB69 10780
  10783-10785 10787-107B0 107B2-107BA 1E030-1E06D"

/-- The set with this name, in lower case: a general property, a category or a script. -/
def propertyNamed? (name : String) : Option CodeSet :=
  let general : Option CodeSet := CodeSet.earlier <$> match name with
    | "whitespace" | "wspace" | "space" => some blankSet
    | "alphabetic" | "alpha" => some alphabetic
    | "uppercase" | "upper" => some (Category.uppercaseLetter.union otherUppercase)
    | "lowercase" | "lower" =>
      some (.unions [Category.lowercaseLetter, otherLowercase, formerLowercase])
    | "cased" => some (cased.union formerLowercase)
    | "caseignorable" | "ci" => some caseIgnorable
    | _ => none
  general <|> categoryNamed? name <|> scriptNamed? name

/-- A name as names are compared: lower case, without a leading `is`, spaces, hyphens, low lines and
characters beyond ASCII. The short name of one property that has no set is the only one to keep its
`is`. -/
def looseName (name : List Char) : String :=
  let bare := fun cs : List Char =>
    cs.filter fun c => c.toNat < 0x80 && !(c = ' ' || c = '-' || c = '_')
  match name.map Char.toLower with
  | 'i' :: 's' :: rest => String.ofList (if bare rest = ['c'] then ['i', 's', 'c'] else bare rest)
  | lower => String.ofList (bare lower)

end Spreadsheet.Text
