/-!
# Splitting texts

`split` cuts a text at every occurrence of a character.
-/

namespace Spreadsheet.Text

/-- The pieces of a text between the occurrences of a character, which do not belong to them. There
is always one more of them than there are occurrences. -/
def split (separator : Char) (cs : List Char) : List (List Char) :=
  cs.foldr (fun c pieces => if c = separator then [] :: pieces else pieces.modifyHead (c :: ·)) [[]]

end Spreadsheet.Text
