import Spreadsheet.Text.Category

/-!
# The repertoire of an earlier version

The character data of this library is that of version 17.0 of the Unicode Standard. Patterns know
the characters of version 16.0 only: `CodeSet.earlier` takes a set back to that version. All else
that has changed for a character in between is the category of one letter.
-/

namespace Spreadsheet.Text

/-- The characters that version 17.0 has added. -/
def newlyAssigned : CodeSet := .ofTable "
  88F C5C CDC 1ACF-1ADD 1AE0-1AEB 20C1 2B96 A7CE-A7CF A7D2 A7D4 A7F1 FBC3-FBD2 FD90-FD91
  FDC8-FDCE 10940-10959 10EC5-10EC7 10ED0-10ED8 10EFA-10EFB 11B60-11B67 11DB0-11DDB 11DE0-11DE9
  16EA0-16EB8 16EBB-16ED3 16FF2-16FF6 187F8-187FF 18D09-18D1E 18D80-18DF2 1CCFA-1CCFC
  1CEBA-1CED0 1CEE0-1CEF0 1E6C0-1E6DE 1E6E0-1E6F5 1E6FE-1E6FF 1F6D8 1F777-1F77A 1F8D0-1F8D8
  1FA54-1FA57 1FA8A 1FA8E 1FAC8 1FACD 1FAEA 1FAEF 1FBFA 2B73A-2B73F 2CEA2-2CEAD 323B0-33479"

/-- The letter that was a lower-case letter until version 17.0 made it one without case. -/
def formerLowercase : CodeSet := .singleton 0x295

/-- The set as it was before the newest characters came. A code point that had no character then
belongs to the sets that the unassigned code points belong to, all of them or none. -/
def CodeSet.earlier (s : CodeSet) : CodeSet :=
  if s.contains CodeSet.maxCode then s.union newlyAssigned else s.diff newlyAssigned

end Spreadsheet.Text
