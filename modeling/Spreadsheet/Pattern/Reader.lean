import Spreadsheet.Pattern.Bracket
import Spreadsheet.Pattern.Build
import Spreadsheet.Pattern.Size

/-!
# Reading patterns

`Pattern.parse` reads a pattern: branches apart by `|`, each a sequence of characters, sets, places
and groups, any of them repeated by `*`, `+`, `?` or a count in braces, and options set by `(?...)`
to the end of the group they stand in.
-/

namespace Spreadsheet.Pattern

open Spreadsheet.Text

/-- A part of a pattern that has been read. -/
structure Part where
  node : Node
  /-- How deep the part nests. -/
  depth : Nat := 0
  /-- The part can be repeated: it is more than a change of options. -/
  repeatable : Bool := true

/-- The deepest nesting that a pattern may have. -/
def maxDepth : Nat := 250

/-- Parts made into one. Two or more of them nest one level deeper than each does. -/
def joinParts (join : List Node → Node) : List Part → Part
  | [] => { node := join [] }
  | [only] => only
  | parts =>
    { node := join (parts.map (·.node))
      depth := parts.foldl (fun d p => max d p.depth) 0 + 1 }

/-- Moves past blanks, whatever the options. -/
def passBlanks : ReadM Unit := modify fun s => { s with ahead := s.ahead.dropWhile isBlank }

/-- Reads a decimal count, blanks around it allowed. -/
def readCount : ReadM Nat := do
  passBlanks
  let digits ← readRun Char.isDigit
  passBlanks
  if digits.isEmpty then throw .invalidCount
  let n := digits.foldl (fun n c => 10 * n + (c.toNat - '0'.toNat)) 0
  if n ≤ 0xFFFFFFFF then return n else throw .invalidCount

/-- Reads the counts in braces of a repetition; the next character is the opening brace. -/
def readCounts : ReadM (Nat × Option Nat) := do
  advanceAndSkip
  let least ← readCount
  let most ←
    if (← peek?) = some ',' then do
      advanceAndSkip
      if (← peek?) = some '\x7d' then pure none else some <$> readCount
    else pure (some least)
  if (← peek?) ≠ some '\x7d' then throw .invalidCount
  advanceAndSkip
  if most.any (· < least) then throw .invalidCount
  return (least, most)

/-- Reads the operator of a repetition and applies it to a part. -/
def readRepetition (operator : Char) (part : Part) : ReadM Part := do
  let (least, most) ←
    match operator with
    | '*' => do advance; pure (0, none)
    | '+' => do advance; pure (1, none)
    | '?' => do advance; pure (0, some 1)
    | _ => readCounts
  let lazy := (← peek?) == some '?'
  if lazy then advance
  let greedy := lazy == (← get).options.swapGreed
  return { node := part.node.repeated least most greedy, depth := part.depth + 1 }

/-- The options with one of them, named by its letter, set to a value. -/
def Options.set? (o : Options) (letter : Char) (value : Bool) : Option Options :=
  match letter with
  | 'i' => some { o with ignoreCase := value }
  | 'm' => some { o with multiLine := value }
  | 's' => some { o with dotMatchesAll := value }
  | 'U' => some { o with swapGreed := value }
  | 'u' => some { o with unicode := value }
  | 'R' => some { o with anyLineEnd := value }
  | 'x' => some { o with ignoreBlanks := value }
  | _ => none

/-- Reads option letters up to a colon or a closing parenthesis: the options that result, whether
any letter was read, and the mark that ended them. Letters behind a hyphen are switched off; none
may come twice, nor the hyphen come last. -/
def readOptions : List Char → List Char → Options → ReadM (Options × Bool × Char)
  | [], _, _ => throw .unclosedGroup
  | c :: rest, read, o => do
    if c = ':' || c = ')' then
      if read.head? = some '-' then throw .invalidOption
      modify fun s => { s with ahead := rest }
      return (o, !read.isEmpty, c)
    else if read.contains c then throw .invalidOption
    else if c = '-' then readOptions rest (c :: read) o
    else
      match o.set? c (!read.contains '-') with
      | none => throw .invalidOption
      | some o => readOptions rest (c :: read) o

/-- Whether a character can stand in the name of a group, or start it. -/
def isNameChar (first : Bool) (c : Char) : Bool :=
  c = '_' || alphabetic.contains c.toNat
    || (!first && (c = '.' || c = '[' || c = ']' || Category.number.contains c.toNat))

/-- Opens a group that can be referred to, under a name if it has one. -/
def openGroup (name : Option (List Char)) : ReadM Nat := do
  let s ← get
  let index := s.groups + 1
  match name with
  | none => set { s with groups := index }
  | some name =>
    if (s.names.lookup name).isSome then throw .invalidGroupName
    set { s with groups := index, names := (name, index) :: s.names }
  return index

/-- Reads the name of a group and the angle bracket that ends it. -/
def readGroupName : ReadM (List Char) := do
  let s ← get
  let name := s.ahead.takeWhile (· ≠ '>')
  match s.ahead.dropWhile (· ≠ '>') with
  | [] => throw .invalidGroupName
  | _ :: after =>
    set { s with ahead := after }
    match name with
    | [] => throw .invalidGroupName
    | first :: rest =>
      if isNameChar true first && rest.all (isNameChar false) then return name
      else throw .invalidGroupName

/-- What an opening parenthesis starts. -/
inductive Opening where
  /-- A change of options to the end of the group around it. -/
  | change (o : Options)
  /-- A group, numbered if it can be referred to, and the options inside it. -/
  | group (index : Option Nat) (o : Options)

/-- Reads an opening parenthesis and what belongs to it. -/
def readOpening : ReadM Opening := do
  advanceAndSkip
  let s ← get
  if ["?=", "?!", "?<=", "?<!"].any fun mark => mark.toList.isPrefixOf s.ahead then
    throw .lookAround
  if (← accept? "?P<".toList) || (← accept? "?<".toList) then
    let name ← readGroupName
    return .group (some (← openGroup (some name))) s.options
  else if ← accept? ['?'] then
    let (o, changed, mark) ← readOptions (← get).ahead [] s.options
    if mark = ':' then return .group none o
    else if changed then return .change o
    else throw .nothingToRepeat
  else return .group (some (← openGroup none)) s.options

/-- The places that `^` and `$` stand for. -/
def anchor (o : Options) (mark : Char) : Assertion :=
  if mark = '^' then
    if !o.multiLine then .textStart else if o.anyLineEnd then .lineStartAnyEnd else .lineStart
  else if !o.multiLine then .textEnd
  else if o.anyLineEnd then .lineEndAnyEnd
  else .lineEnd

/-- The characters that the dot stands for. -/
def dotSet (o : Options) : CodeSet :=
  if o.dotMatchesAll then .all
  else if o.anyLineEnd then CodeSet.complement (.ofTable "A D")
  else CodeSet.complement (.singleton 0x0A)

/-- A single character under the options in force. -/
def charNode (o : Options) (c : Char) : Node :=
  if !o.ignoreCase || (!o.unicode && 0x80 ≤ c.toNat) then .literal [c]
  else .ofSet (foldCase o (.singleton c.toNat))

/-- Reads a character, set or place; the next character is `c`. -/
def readAtom (c : Char) : ReadM Part := do
  let o := (← get).options
  match c with
  | '[' =>
    let listed ← readSet
    return { node := .ofSet listed.members, depth := listed.depth }
  | '\\' =>
    match ← readEscape with
    | .char c => return { node := charNode o c }
    | .set members => return { node := .ofSet members }
    | .place a => return { node := .assertion a }
  | '.' =>
    advance
    if !o.unicode then throw .splitsCharacters
    return { node := .ofSet (dotSet o) }
  | c =>
    advance
    if c = '^' || c = '$' then return { node := .assertion (anchor o c) }
    return { node := charNode o c }

mutual

/-- Reads branches up to a closing parenthesis or the end of the text. -/
def readBranches : Nat → List Part → ReadM Part
  | 0, _ => throw .nestsTooDeep
  | fuel + 1, branches => do
    let branch ← readParts fuel []
    if (← peek?) = some '|' then
      advance
      readBranches fuel (branch :: branches)
    else return joinParts .ofBranches (branch :: branches).reverse

/-- Reads the parts of a branch; those read before are given, the latest first. -/
def readParts : Nat → List Part → ReadM Part
  | 0, _ => throw .nestsTooDeep
  | fuel + 1, parts => do
    skipBlanks
    match ← peek? with
    | none => return joinParts .ofParts parts.reverse
    | some c =>
      if c = '|' || c = ')' then return joinParts .ofParts parts.reverse
      else if c = '*' || c = '+' || c = '?' || c = '\x7b' then
        match parts with
        | [] => throw .nothingToRepeat
        | part :: before =>
          if !part.repeatable then throw .nothingToRepeat
          readParts fuel ((← readRepetition c part) :: before)
      else if c = '(' then
        let outer := (← get).options
        match ← readOpening with
        | .change o =>
          modify fun s => { s with options := o }
          readParts fuel ({ node := .empty, repeatable := false } :: parts)
        | .group index o =>
          modify fun s => { s with options := o }
          let body ← readBranches fuel []
          if (← peek?) ≠ some ')' then throw .unclosedGroup
          modify fun s => { s with options := outer }
          advance
          let node := match index with
            | some i => .group i body.node
            | none => body.node
          readParts fuel ({ node, depth := body.depth + 1 } :: parts)
      else readParts fuel ((← readAtom c) :: parts)

end

/-- Reads a whole pattern. -/
def readPattern : ReadM Part := do
  let part ← readBranches (3 * (← get).length + 3) []
  if (← peek?).isSome then throw .unopenedGroup
  return part

/-- Reads a pattern; its nesting and its size are bounded. -/
def parse (text : String) : Except Error Pattern := do
  let (part, s) ← readPattern.run { length := text.length, ahead := text.toList }
  if maxDepth < part.depth then throw .nestsTooDeep
  if !part.node.fits then throw .tooLarge
  return { body := part.node, groups := s.groups, names := s.names }

end Spreadsheet.Pattern
