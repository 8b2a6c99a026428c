import Spreadsheet.Pattern.Escape

/-!
# Reading bracketed sets

A bracketed set lists characters, ranges, escapes, named ASCII classes and further bracketed sets.
Two marks in a row combine what stands before them with what follows, from left to right: `&&` keeps
common members, `--` removes members, `~~` keeps those on one side only.
-/

namespace Spreadsheet.Pattern

open Spreadsheet.Text

/-- How two parts of a bracketed set are combined. -/
inductive SetOperation where
  | common
  | difference
  | onOneSide
deriving DecidableEq, Repr

/-- The members that an operation keeps. -/
def SetOperation.apply : SetOperation → CodeSet → CodeSet → CodeSet
  | .common, s, t => s.inter t
  | .difference, s, t => s.diff t
  | .onOneSide, s, t => s.symmDiff t

/-- Members of a set, and how deep what they were read from nests. -/
structure Listed where
  members : CodeSet
  depth : Nat := 0

/-- Items that stand side by side. Two or more of them nest one level deeper than each does. -/
def Listed.ofItems (items : List Listed) : Listed :=
  { members := .unions (items.map (·.members))
    depth := match items with
      | [] => 0
      | [only] => only.depth
      | _ => items.foldl (fun depth item => max depth item.depth) 0 + 1 }

/-- The part of a bracketed set read so far: its items, and what an operation holds to its left. -/
structure SetSoFar where
  pending : Option (Listed × SetOperation) := none
  items : List Listed := []

/-- The set so far with one more item. -/
def SetSoFar.add (s : SetSoFar) (item : Listed) : SetSoFar := { s with items := item :: s.items }

/-- The members so far. Both sides of an operation take in the other cases of their members. -/
def SetSoFar.listed (s : SetSoFar) (o : Options) : Listed :=
  let right := Listed.ofItems s.items
  match s.pending with
  | none => right
  | some (left, operation) =>
    { members := operation.apply (foldCase o left.members) (foldCase o right.members)
      depth := max left.depth right.depth + 1 }

/-- The named ASCII classes. -/
def asciiClass? : String → Option CodeSet
  | "alnum" => some (.ofTable "30-39 41-5A 61-7A")
  | "alpha" => some (.ofTable "41-5A 61-7A")
  | "ascii" => some (.ofTable "0-7F")
  | "blank" => some (.ofTable "9 20")
  | "cntrl" => some (.ofTable "0-1F 7F")
  | "digit" => some (.ofTable "30-39")
  | "graph" => some (.ofTable "21-7E")
  | "lower" => some (.ofTable "61-7A")
  | "print" => some (.ofTable "20-7E")
  | "punct" => some (.ofTable "21-2F 3A-40 5B-60 7B-7E")
  | "space" => some (.ofTable "9-D 20")
  | "upper" => some (.ofTable "41-5A")
  | "word" => some (.ofTable "30-39 41-5A 5F 61-7A")
  | "xdigit" => some (.ofTable "30-39 41-46 61-66")
  | _ => none

/-- Reads a named class such as `[:alpha:]` or `[:^alpha:]`; without one, nothing is read. -/
def readAsciiClass : ReadM (Option CodeSet) := do
  let s ← get
  match s.ahead with
  | '[' :: ':' :: rest =>
    let (negated, named) := match rest with
      | '^' :: named => (true, named)
      | named => (false, named)
    match asciiClass? (String.ofList (named.takeWhile (· ≠ ':'))), named.dropWhile (· ≠ ':') with
    | some members, ':' :: ']' :: after =>
      set { s with ahead := after }
      return some (← finishSet negated members)
    | _, _ => return none
  | _ => return none

/-- Reads one character or escape of a bracketed set. -/
def readSetAtom : ReadM Atom := do
  match ← peek? with
  | none => throw .unclosedSet
  | some '\\' => readEscape
  | some c =>
    advance
    return .char c

/-- The set of a single character. Without Unicode only ASCII can be listed. -/
def charSet (c : Char) : ReadM CodeSet := do
  if !(← get).options.unicode && 0x80 ≤ c.toNat then throw .splitsCharacters
  return .singleton c.toNat

/-- The character behind a hyphen that tells whether the hyphen makes a range. Where blanks are
skipped it is the first one that is neither blank nor the mark of a comment in front of all others;
without such a character it is the one right behind the hyphen. -/
def charBehindHyphen? (ignoreBlanks : Bool) (behind : List Char) : Option Char :=
  if !ignoreBlanks then behind.head?
  else
    match behind.dropWhile isBlank with
    | '#' :: rest => (rest.dropWhile isBlank).head? <|> behind.head?
    | rest => rest.head? <|> behind.head?

/-- Reads a character, an escape or a range of a bracketed set. A hyphen before the closing bracket
or before another hyphen makes no range. -/
def readRange : ReadM CodeSet := do
  let start ← readSetAtom
  skipBlanks
  let s ← get
  let makesRange ←
    match s.ahead with
    | [] => throw .unclosedSet
    | c :: behind =>
      let next := charBehindHyphen? s.options.ignoreBlanks behind
      pure (c = '-' && next ≠ some ']' && next ≠ some '-')
  if !makesRange then
    match start with
    | .char c => charSet c
    | .set members => return members
    | .place _ => throw .invalidSet
  else
    advanceAndSkip
    match start, ← readSetAtom with
    | .char first, .char last =>
      let _ ← charSet first
      let _ ← charSet last
      if last < first then throw .invalidSet
      return .ofSpans [⟨first.toNat, last.toNat⟩]
    | _, _ => throw .invalidSet

/-- Reads the hyphens that open a set and stand for themselves. The fuel bounds their number. -/
def readHyphens : Nat → List Listed → ReadM (List Listed)
  | 0, items => return items
  | fuel + 1, items => do
    if (← peek?) = some '-' then
      advanceAndSkip
      readHyphens fuel ({ members := .singleton '-'.toNat } :: items)
    else return items

/-- The operation that two marks in a row ask for. -/
def operationAhead? : List Char → Option SetOperation
  | '&' :: '&' :: _ => some .common
  | '-' :: '-' :: _ => some .difference
  | '~' :: '~' :: _ => some .onOneSide
  | _ => none

/-- Reads the opening of a bracketed set: the bracket, a negation, hyphens, and a closing bracket
that stands for itself because it comes first. -/
def readSetStart : ReadM (Bool × List Listed) := do
  advanceAndSkip
  let negated := (← peek?) == some '^'
  if negated then advanceAndSkip
  let hyphens ← readHyphens (← get).length []
  if hyphens.isEmpty && (← peek?) = some ']' then
    advanceAndSkip
    return (negated, [{ members := .singleton ']'.toNat }])
  return (negated, hyphens)

/-- Reads a bracketed set behind its opening, up to its closing bracket. The fuel bounds the number
of items, nested ones included. -/
def readSetItems (negated : Bool) : Nat → SetSoFar → ReadM Listed
  | 0, _ => throw .unclosedSet
  | fuel + 1, sofar => do
    skipBlanks
    match ← peek? with
    | none => throw .unclosedSet
    | some ']' =>
      advance
      let inside := sofar.listed (← get).options
      return { members := ← finishSet negated inside.members, depth := inside.depth + 1 }
    | some '[' =>
      match ← readAsciiClass with
      | some members => readSetItems negated fuel (sofar.add { members })
      | none =>
        let (innerNegated, items) ← readSetStart
        readSetItems negated fuel (sofar.add (← readSetItems innerNegated fuel { items }))
    | some _ =>
      match operationAhead? (← get).ahead with
      | some operation =>
        advance
        advance
        let left := sofar.listed (← get).options
        readSetItems negated fuel { pending := some (left, operation) }
      | none => readSetItems negated fuel (sofar.add { members := ← readRange })

/-- Reads a bracketed set, and how deep it nests. -/
def readSet : ReadM Listed := do
  let fuel := (← get).length + 1
  let (negated, items) ← readSetStart
  readSetItems negated fuel { items }

end Spreadsheet.Pattern
