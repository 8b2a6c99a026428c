import Spreadsheet.Text.Property
import Spreadsheet.Text.Folding

/-!
# Patterns

A pattern describes texts: characters from sets, places in the text, sequences, choices, repetitions
and numbered groups. Where several matches are possible, earlier branches and, depending on the
repetition, more or fewer rounds are preferred.
-/

namespace Spreadsheet.Pattern

open Spreadsheet.Text

/-- Which characters count as word characters. -/
inductive WordKind where
  | unicode
  | ascii
deriving DecidableEq, Repr

/-- A condition on a place in the text. -/
inductive Assertion where
  | textStart
  | textEnd
  | lineStart
  | lineEnd
  /-- A line start where `\r`, `\n` and `\r\n` all end lines. -/
  | lineStartAnyEnd
  /-- A line end where `\r`, `\n` and `\r\n` all end lines. -/
  | lineEndAnyEnd
  | wordBoundary (kind : WordKind)
  | notWordBoundary (kind : WordKind)
  /-- A word character follows and none precedes. -/
  | wordStart (kind : WordKind)
  /-- A word character precedes and none follows. -/
  | wordEnd (kind : WordKind)
  /-- No word character precedes. -/
  | wordStartHalf (kind : WordKind)
  /-- No word character follows. -/
  | wordEndHalf (kind : WordKind)
deriving DecidableEq, Repr

/-- A pattern, with its options resolved. Sequences and choices of more than two are nested to the
right. -/
inductive Node where
  | empty
  | literal (cs : List Char)
  | oneOf (set : CodeSet)
  | assertion (a : Assertion)
  | sequence (first second : Node)
  | choice (first second : Node)
  | repetition (body : Node) (least : Nat) (most : Option Nat) (greedy : Bool)
  | group (index : Nat) (body : Node)
deriving DecidableEq, Inhabited

/-- Why a text is no pattern. -/
inductive Error where
  | unclosedGroup
  | unopenedGroup
  | unclosedSet
  | invalidSet
  | nothingToRepeat
  | invalidCount
  | invalidEscape
  | invalidOption
  | invalidGroupName
  | unknownProperty
  | lookAround
  /-- The pattern would match single bytes of a character. -/
  | splitsCharacters
  | nestsTooDeep
  | tooLarge
deriving DecidableEq, Repr

/-- The options in force at a place of a pattern. -/
structure Options where
  ignoreCase : Bool := false
  /-- `^` and `$` also match at the ends of lines. -/
  multiLine : Bool := false
  /-- The dot also matches the ends of lines. -/
  dotMatchesAll : Bool := false
  /-- Repetitions are lazy unless marked. -/
  swapGreed : Bool := false
  unicode : Bool := true
  /-- Lines end in `\r`, `\n` or `\r\n`. -/
  anyLineEnd : Bool := false
  /-- Blanks and comments in the pattern are skipped. -/
  ignoreBlanks : Bool := false
deriving DecidableEq, Repr

/-- The nodes that a sequence puts one behind the other. -/
def Node.parts : Node → List Node
  | .empty => []
  | .sequence a b => a :: b.parts
  | n => [n]

/-- The nodes that a choice offers, the preferred one first. -/
def Node.branches : Node → List Node
  | .choice a b => a :: b.branches
  | n => [n]

/-- The least number of bytes that a match takes; nothing is known of a node with a set that has no
members. -/
def Node.minLength : Node → Option Nat
  | .empty => some 0
  | .literal cs => some (cs.map Char.utf8Size).sum
  | .oneOf set => set.spans[0]?.map fun span => (Char.ofNat span.first).utf8Size
  | .assertion _ => some 0
  | .sequence a b => do return (← a.minLength) + (← b.minLength)
  | .choice a b => do return min (← a.minLength) (← b.minLength)
  | .repetition body least _ _ => body.minLength.map (least * ·)
  | .group _ body => body.minLength

/-- Whether the node may match the empty text. -/
def Node.canBeEmpty (n : Node) : Bool := n.minLength.all (· = 0)

/-- Whether the node matches nothing but the empty text. -/
def Node.isZeroWidth : Node → Bool
  | .empty => true
  | .literal cs => cs.isEmpty
  | .oneOf _ => false
  | .assertion _ => true
  | .sequence a b => a.isZeroWidth && b.isZeroWidth
  | .choice a b => a.isZeroWidth && b.isZeroWidth
  | .repetition body _ most _ => body.isZeroWidth && most.isSome
  | .group _ body => body.isZeroWidth

end Spreadsheet.Pattern

namespace Spreadsheet

/-- A pattern with the names of its groups. -/
structure Pattern where
  body : Pattern.Node
  /-- The number of groups, the whole match not counted. -/
  groups : Nat
  names : List (List Char × Nat)

end Spreadsheet
