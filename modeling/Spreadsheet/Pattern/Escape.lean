import Spreadsheet.Pattern.Basic

/-!
# Reading escapes

Reading a pattern consumes its text from the left under the options in force. This module holds the
state of the reader, the steps that all parts of the grammar share, and the escape sequences: a
backslash before a mark stands for the mark, before a letter for a character, a set or a place.
-/

namespace Spreadsheet.Pattern

open Spreadsheet.Text

/-- The state of reading: the length of the whole text, what is ahead of it, the options in force
and the groups opened so far. -/
structure ReadState where
  length : Nat
  ahead : List Char
  options : Options := {}
  groups : Nat := 0
  names : List (List Char × Nat) := []

/-- Reading a pattern. -/
abbrev ReadM := StateT ReadState (Except Error)

/-- The next character. -/
def peek? : ReadM (Option Char) := return (← get).ahead.head?

/-- Moves past the next character. -/
def advance : ReadM Unit := modify fun s => { s with ahead := s.ahead.tail }

/-- The text behind a comment, which ends with its line. -/
def afterComment : List Char → List Char
  | [] => []
  | c :: rest => if c = '\n' then rest else afterComment rest

theorem length_afterComment_le (cs : List Char) : (afterComment cs).length ≤ cs.length := by
  induction cs with
  | nil => simp [afterComment]
  | cons c rest ih =>
    simp only [afterComment]
    split
    · simp
    · simp only [List.length_cons]; omega

/-- The text behind blanks and comments. -/
def afterBlanks : List Char → List Char
  | [] => []
  | c :: rest =>
    if isBlank c then afterBlanks rest
    else if c = '#' then afterBlanks (afterComment rest)
    else c :: rest
termination_by cs => cs.length
decreasing_by
  · simp
  · have := length_afterComment_le rest
    simp only [List.length_cons]; omega

/-- Skips blanks and comments where the options ask for it. -/
def skipBlanks : ReadM Unit := modify fun s =>
  if s.options.ignoreBlanks then { s with ahead := afterBlanks s.ahead } else s

/-- Moves past the next character and what is skipped behind it. -/
def advanceAndSkip : ReadM Unit := do advance; skipBlanks

/-- Moves past a given text if it comes next, and says whether it did. -/
def accept? (expected : List Char) : ReadM Bool := do
  let s ← get
  if expected.isPrefixOf s.ahead then
    set { s with ahead := s.ahead.drop expected.length }
    return true
  else return false

/-- Reads characters of a kind, what is skipped between them left out. The fuel bounds their
number. -/
def readWhile (kind : Char → Bool) : Nat → List Char → ReadM (List Char)
  | 0, read => return read.reverse
  | fuel + 1, read => do
    match ← peek? with
    | some c =>
      if kind c then
        advanceAndSkip
        readWhile kind fuel (c :: read)
      else return read.reverse
    | none => return read.reverse

/-- Reads all characters of a kind that come next, what is skipped between them left out. -/
def readRun (kind : Char → Bool) : ReadM (List Char) := do
  readWhile kind (← get).length []

/-- What an escape sequence or a plain character stands for. -/
inductive Atom where
  | char (c : Char)
  | set (members : CodeSet)
  | place (a : Assertion)

/-- Fails unless the set can be used where characters are not taken as Unicode: it must then hold
ASCII characters only. -/
def requireWhole (s : CodeSet) : ReadM CodeSet := do
  if (← get).options.unicode then return s
  else if s.spans.all fun span => span.last < 0x80 then return s
  else throw .splitsCharacters

/-- The complement of a set, among the characters or, without Unicode, among the bytes. -/
def complementIn (unicode : Bool) (s : CodeSet) : CodeSet :=
  if unicode then s.complement else s.complement.inter (.ofSpans [⟨0, 0xFF⟩])

/-- The set with both cases of its members where the options ask for it. -/
def foldCase (o : Options) (s : CodeSet) : CodeSet :=
  if !o.ignoreCase then s
  else if o.unicode then s.closeUnderCase
  else s.closeUnderAsciiCase

/-- A set as written: with its cases joined, negated if asked. -/
def finishSet (negated : Bool) (s : CodeSet) : ReadM CodeSet := do
  let o := (← get).options
  let folded := foldCase o s
  requireWhole (if negated then complementIn o.unicode folded else folded)

/-- The set that a letter names: digits, white space or word characters, in upper case all
others. -/
def letterSet (letter : Char) : ReadM CodeSet := do
  let unicode := (← get).options.unicode
  let members :=
    match letter.toLower, unicode with
    | 'd', true => digitSet
    | 'd', false => asciiDigitSet
    | 's', true => blankSet
    | 's', false => asciiBlankSet
    | _, true => wordSet
    | _, false => asciiWordSet
  requireWhole (if letter.isUpper then complementIn unicode members else members)

/-- Reads up to `count` hexadecimal digits; fails at any other character. -/
def readHexDigits : Nat → Nat → ReadM Nat
  | 0, value => return value
  | count + 1, value => do
    match (← peek?).bind hexDigit? with
    | none => throw .invalidEscape
    | some d =>
      advanceAndSkip
      readHexDigits count (16 * value + d)

/-- Reads hexadecimal digits up to a closing brace. The fuel bounds their number. -/
def readBracedHex : Nat → Option Nat → ReadM Nat
  | 0, _ => throw .invalidEscape
  | fuel + 1, value => do
    match ← peek? with
    | none => throw .invalidEscape
    | some '\x7d' =>
      advanceAndSkip
      match value with
      | some n => return n
      | none => throw .invalidEscape
    | some c =>
      match hexDigit? c with
      | none => throw .invalidEscape
      | some d =>
        advanceAndSkip
        readBracedHex fuel (some (16 * value.getD 0 + d))

/-- The character with a code, if there is one. -/
def charOfCode? (code : Nat) : Option Char :=
  if h : code.isValidChar then some (Char.ofNatAux code h) else none

/-- Reads a character code behind `\x`, `\u` or `\U`. -/
def readCode (letter : Char) : ReadM Atom := do
  advanceAndSkip
  let braced := (← peek?) == some '\x7b'
  let code ←
    if braced then do
      advanceAndSkip
      readBracedHex ((← get).length + 1) none
    else readHexDigits (if letter = 'x' then 2 else if letter = 'u' then 4 else 8) 0
  -- Without Unicode two digits give a byte, which is a whole character in ASCII only.
  if letter = 'x' && !braced && !(← get).options.unicode && 0x80 ≤ code then
    throw .splitsCharacters
  match charOfCode? code with
  | some c => return .char c
  | none => throw .invalidEscape

/-- Reads characters up to a closing brace and moves past it. The fuel bounds their number. -/
def readToBrace : Nat → List Char → ReadM (List Char)
  | 0, _ => throw .invalidEscape
  | fuel + 1, read => do
    match ← peek? with
    | none => throw .invalidEscape
    | some c =>
      advanceAndSkip
      if c = '\x7d' then return read.reverse else readToBrace fuel (c :: read)

/-- What stands before and behind the first occurrence of a mark. -/
def splitAtMark? (mark : List Char) : List Char → Option (List Char × List Char)
  | [] => none
  | c :: rest =>
    if mark.isPrefixOf (c :: rest) then some ([], (c :: rest).drop mark.length)
    else (splitAtMark? mark rest).map fun (before, after) => (c :: before, after)

/-- The set of the characters for which a property has a value. -/
def valuedProperty? (property value : List Char) : Option CodeSet :=
  match looseName property with
  | "gc" | "generalcategory" => categoryNamed? (looseName value)
  | "sc" | "script" => scriptNamed? (looseName value)
  | _ => none

/-- The set that `\p` names: a property, or a property and its value behind one of three marks that
all mean the same. -/
def propertySet? (name : List Char) : Option CodeSet :=
  let valued := splitAtMark? ['!', '='] name <|> splitAtMark? [':'] name <|> splitAtMark? ['='] name
  match valued with
  | some (property, value) => valuedProperty? property value
  | none => propertyNamed? (looseName name)

/-- Reads the name of a property behind `\p` or `\P`: one letter, or a name in braces. -/
def readProperty (letter : Char) : ReadM Atom := do
  advanceAndSkip
  let name ← match ← peek? with
    | none => throw .invalidEscape
    | some '\\' => throw .invalidEscape
    | some '\x7b' => do
      advanceAndSkip
      readToBrace ((← get).length + 1) []
    | some c => do
      advanceAndSkip
      pure [c]
  if !(← get).options.unicode then throw .splitsCharacters
  match propertySet? name with
  | none => throw .unknownProperty
  | some members => return .set (← finishSet (letter = 'P') members)

/-- Marks with a meaning of their own in patterns. -/
def isMark (c : Char) : Bool :=
  "\\.+*?()|[]^$#&-~".toList.contains c || c = '\x7b' || c = '\x7d'

/-- Whether a backslash before the character makes it stand for itself: any ASCII character that is
no letter, digit or angle bracket. -/
def isEscapable (c : Char) : Bool :=
  isMark c || (c.toNat < 0x80 && !c.isAlphanum && c ≠ '<' && c ≠ '>')

/-- Whether a character can stand in the name of a kind of place. -/
def isPlaceNameChar (c : Char) : Bool := c.isAlpha || c = '-'

/-- Reads the name in braces that may follow `\b`; without one, nothing is read. -/
def readBoundaryName : ReadM (Option (List Char)) := do
  let before ← get
  if (← peek?) ≠ some '\x7b' then return none
  advanceAndSkip
  match ← peek? with
  | none => throw .invalidEscape
  | some c =>
    if !isPlaceNameChar c then
      set before
      return none
    let name ← readRun isPlaceNameChar
    if (← peek?) ≠ some '\x7d' then throw .invalidEscape
    advance
    return some name

/-- Reads an escape sequence; the next character is its backslash. -/
def readEscape : ReadM Atom := do
  advance
  let word : WordKind := if (← get).options.unicode then .unicode else .ascii
  match ← peek? with
  | none => throw .invalidEscape
  | some c =>
    if c.isDigit then throw .invalidEscape
    else if c = 'x' || c = 'u' || c = 'U' then readCode c
    else if c = 'p' || c = 'P' then readProperty c
    else if "dswDSW".toList.contains c then do
      advance
      return .set (← letterSet c)
    else
      advance
      if isEscapable c then return .char c
      match c with
      | 'a' => return .char '\x07'
      | 'f' => return .char '\x0c'
      | 't' => return .char '\t'
      | 'n' => return .char '\n'
      | 'r' => return .char '\r'
      | 'v' => return .char '\x0b'
      | 'A' => return .place .textStart
      | 'z' => return .place .textEnd
      | 'B' => return .place (.notWordBoundary word)
      | '<' => return .place (.wordStart word)
      | '>' => return .place (.wordEnd word)
      | 'b' =>
        match ← readBoundaryName with
        | none => return .place (.wordBoundary word)
        | some name =>
          match String.ofList name with
          | "start" => return .place (.wordStart word)
          | "end" => return .place (.wordEnd word)
          | "start-half" => return .place (.wordStartHalf word)
          | "end-half" => return .place (.wordEndHalf word)
          | _ => throw .invalidEscape
      | _ => throw .invalidEscape

end Spreadsheet.Pattern
