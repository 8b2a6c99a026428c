import Spreadsheet.Pattern.Reader
import Spreadsheet.Pattern.Search
import Spreadsheet.Numeric.Numeral

/-!
# Replacing matches

A replacement is a text with references to groups: `$1`, `$name`, or with braces where letters
follow. `$$` is a dollar sign, and so is a `$` that starts no reference. `Pattern.replaceAll` puts
it in place of every match.
-/

namespace Spreadsheet.Pattern

/-- A piece of a replacement. -/
inductive Piece where
  | char (c : Char)
  /-- What a group matched, given by number or name. -/
  | group (name : List Char)
deriving DecidableEq, Repr

/-- Whether a character can stand in a reference without braces. -/
def isReferenceChar (c : Char) : Bool := c.isAlphanum || c = '_'

/-- The pieces of a replacement. A name without braces is the longest run of letters, digits and low
lines. The first argument counts the characters that a reference has taken already. -/
def piecesFrom : Nat → List Char → List Piece
  | _, [] => []
  | skip + 1, _ :: rest => piecesFrom skip rest
  | 0, '$' :: rest =>
    match rest with
    | '$' :: _ => .char '$' :: piecesFrom 1 rest
    | '\x7b' :: named =>
      let name := named.takeWhile (· ≠ '\x7d')
      if name.length < named.length then .group name :: piecesFrom (name.length + 2) rest
      else .char '$' :: piecesFrom 0 rest
    | _ =>
      let name := rest.takeWhile isReferenceChar
      if name.isEmpty then .char '$' :: piecesFrom 0 rest
      else .group name :: piecesFrom name.length rest
  | 0, c :: rest => .char c :: piecesFrom 0 rest

/-- The pieces of a replacement. -/
def pieces (replacement : List Char) : List Piece := piecesFrom 0 replacement

/-- The number of the group that a reference means. -/
def groupNumber? (p : Pattern) (name : List Char) : Option Nat :=
  match Numeric.readIndex? name with
  | some n => some n
  | none => p.names.lookup name

/-- The characters of a text that a match records for a group. -/
def groupText (chars : Array Char) (slots : Slots) (group : Nat) : List Char :=
  match groupBounds slots group with
  | some (first, last) => (chars.extract first last).toList
  | none => []

/-- A piece filled in from a match. -/
def fill (p : Pattern) (chars : Array Char) (slots : Slots) : Piece → List Char
  | .char c => [c]
  | .group name =>
    match groupNumber? p name with
    | some n => groupText chars slots n
    | none => []

/-- The text from `index` on with the matches replaced, as reversed chunks behind `written`. -/
def replaceFrom (p : Pattern) (chars : Array Char) (ps : List Piece) :
    List (List Char) → Nat → List Slots → List (List Char)
  | written, index, [] => (chars.extract index chars.size).toList :: written
  | written, index, slots :: rest =>
    match groupBounds slots 0 with
    | none => replaceFrom p chars ps written index rest
    | some (first, last) =>
      let gap := (chars.extract index first).toList
      replaceFrom p chars ps (ps.flatMap (fill p chars slots) :: gap :: written) last rest

/-- The text with every match of the pattern replaced. -/
def replaceAll (p : Pattern) (replacement text : String) : String :=
  let chars := text.toList.toArray
  let found := allMatches (program p) text.toList
  String.ofList (replaceFrom p chars (pieces replacement.toList) [] 0 found).reverse.flatten

end Spreadsheet.Pattern
