import Spreadsheet.Json.Basic

/-!
# Printing JSON

Values are printed over several lines: every item and every member stands on a line of its own, two
blanks deeper than what it belongs to. Empty arrays and objects take no lines.
-/

namespace Spreadsheet.Json

/-- The start of a line at a depth. -/
def newline (depth : Nat) : List Char := '\n' :: List.replicate (2 * depth) ' '

/-- A string between its quotes. -/
def printString (raw : List Char) : List Char := '"' :: raw ++ ['"']

mutual

/-- A value printed at a depth. -/
def print (depth : Nat) : Json → List Char
  | .null => ['n', 'u', 'l', 'l']
  | .bool true => ['t', 'r', 'u', 'e']
  | .bool false => ['f', 'a', 'l', 's', 'e']
  | .number literal => literal
  | .string raw => printString raw
  | .array [] => ['[', ']']
  | .array (item :: items) =>
    '[' :: newline (depth + 1) ++ print (depth + 1) item ++ printItems (depth + 1) items
      ++ newline depth ++ [']']
  | .object [] => ['\x7b', '\x7d']
  | .object ((key, value) :: members) =>
    '\x7b' :: newline (depth + 1) ++ printString key ++ [':', ' '] ++ print (depth + 1) value
      ++ printMembers (depth + 1) members ++ newline depth ++ ['\x7d']

/-- Further items of an array. -/
def printItems (depth : Nat) : List Json → List Char
  | [] => []
  | item :: items => ',' :: newline depth ++ print depth item ++ printItems depth items

/-- Further members of an object. -/
def printMembers (depth : Nat) : List (List Char × Json) → List Char
  | [] => []
  | (key, value) :: members =>
    ',' :: newline depth ++ printString key ++ [':', ' '] ++ print depth value
      ++ printMembers depth members

end

/-- The text of a value. -/
def text (value : Json) : String := String.ofList (print 0 value)

end Spreadsheet.Json
