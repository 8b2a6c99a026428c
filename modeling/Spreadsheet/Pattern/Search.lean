import Spreadsheet.Pattern.Program

/-!
# Searching

`search` finds the first match of a program in a text: the one that starts first and, among those,
the preferred one. All ways to match are followed side by side, one thread each, in order of
preference; a thread that reaches a step that an earlier one has reached at the same place is
dropped, so the work at a place is bounded by the size of the program.
-/

namespace Spreadsheet.Pattern

open Spreadsheet.Text

/-- A place in the text: its position and the characters around it. -/
structure Place where
  index : Nat
  before : Option Char
  after : Option Char

/-- Whether a character on one side of a place is a word character. -/
def isWord (kind : WordKind) (c : Option Char) : Bool :=
  match c with
  | none => false
  | some c =>
    match kind with
    | .ascii => asciiWordSet.contains c.toNat
    | .unicode => wordSet.contains c.toNat

/-- Whether an assertion holds at a place. -/
def Assertion.holds (a : Assertion) (p : Place) : Bool :=
  match a with
  | .textStart => p.before.isNone
  | .textEnd => p.after.isNone
  | .lineStart => p.before.isNone || p.before = some '\n'
  | .lineEnd => p.after.isNone || p.after = some '\n'
  | .lineStartAnyEnd =>
    p.before.isNone || p.before = some '\n' || (p.before = some '\r' && p.after ≠ some '\n')
  | .lineEndAnyEnd =>
    p.after.isNone || p.after = some '\r' || (p.after = some '\n' && p.before ≠ some '\r')
  | .wordBoundary k => isWord k p.before != isWord k p.after
  | .notWordBoundary k => isWord k p.before == isWord k p.after
  | .wordStart k => !isWord k p.before && isWord k p.after
  | .wordEnd k => isWord k p.before && !isWord k p.after
  | .wordStartHalf k => !isWord k p.before
  | .wordEndHalf k => !isWord k p.after

/-- The positions recorded so far. -/
abbrev Slots := Array (Option Nat)

/-- A way to match that waits at a step which takes a character or completes the match. -/
structure Thread where
  step : Nat
  slots : Slots

/-- The threads at a place in order of preference, and for each step the last place, counted from
one, at which it was reached. -/
structure Threads where
  waiting : Array Thread := #[]
  reached : Array Nat

/-- Follows the steps on the stack that take no character, preferred ones first, and adds a thread
for each that waits. Every step is followed at most once at a place, so the fuel of twice the number
of steps is enough. -/
def follow (p : Program) (here : Place) : Nat → List Thread → Threads → Threads
  | 0, _, threads => threads
  | _, [], threads => threads
  | fuel + 1, t :: stack, threads =>
    if threads.reached.getD t.step 0 = here.index + 1 then follow p here fuel stack threads
    else
      let threads := { threads with reached := threads.reached.setIfInBounds t.step (here.index + 1) }
      match p.steps[t.step]? with
      | none => follow p here fuel stack threads
      | some (.branch first second) =>
        follow p here fuel ({ t with step := first } :: { t with step := second } :: stack) threads
      | some (.check a next) =>
        follow p here fuel (if a.holds here then { t with step := next } :: stack else stack) threads
      | some (.mark slot next) =>
        follow p here fuel
          (⟨next, t.slots.setIfInBounds slot (some here.index)⟩ :: stack) threads
      | some .done | some (.take _ _) =>
        follow p here fuel stack { threads with waiting := threads.waiting.push t }

/-- Follows a thread at a place. -/
def Threads.start (threads : Threads) (p : Program) (here : Place) (t : Thread) : Threads :=
  follow p here (2 * p.steps.size + 2) [t] threads

/-- Moves the threads past a character. A thread that is complete gives the match and stops those
after it. -/
def advanceThreads (p : Program) (c : Char) (next : Place) :
    List Thread → Threads → Threads × Option Slots
  | [], threads => (threads, none)
  | t :: rest, threads =>
    match p.steps[t.step]? with
    | some .done => (threads, some t.slots)
    | some (.take set after) =>
      let threads :=
        if set.contains c.toNat then threads.start p next ⟨after, t.slots⟩ else threads
      advanceThreads p c next rest threads
    | _ => advanceThreads p c next rest threads

/-- The slots of the first complete thread. -/
def completed (p : Program) (threads : List Thread) : Option Slots :=
  threads.findSome? fun t =>
    match p.steps[t.step]? with
    | some .done => some t.slots
    | _ => none

/-- Searches the text from a place on. `found` is the best match so far; while there is none, a new
thread starts at every place. -/
def searchFrom (p : Program) (index : Nat) (before : Option Char) (found : Option Slots)
    (threads : Threads) : List Char → Option Slots
  | [] =>
    let here : Place := ⟨index, before, none⟩
    let threads :=
      if found.isNone then threads.start p here ⟨p.start, Array.replicate p.slots none⟩ else threads
    completed p threads.waiting.toList <|> found
  | c :: rest =>
    let here : Place := ⟨index, before, some c⟩
    let threads :=
      if found.isNone then threads.start p here ⟨p.start, Array.replicate p.slots none⟩ else threads
    if threads.waiting.isEmpty && found.isSome then found
    else
      let next : Place := ⟨index + 1, some c, rest.head?⟩
      let (moved, better) :=
        advanceThreads p c next threads.waiting.toList { reached := threads.reached }
      searchFrom p (index + 1) (some c) (better <|> found) moved rest

/-- The positions of the first match in the text from `index` on; `before` is the character in front
of it. -/
def search (p : Program) (index : Nat) (before : Option Char) (cs : List Char) : Option Slots :=
  searchFrom p index before none { reached := Array.replicate p.steps.size 0 } cs

/-- The first and last position of a group, if it took part in the match. -/
def groupBounds (slots : Slots) (group : Nat) : Option (Nat × Nat) :=
  match slots[2 * group]?, slots[2 * group + 1]? with
  | some (some first), some (some last) => some (first, last)
  | _, _ => none

/-- All matches in the text from `index` on, each behind the one before. An empty match right where
the last one ended does not count. The fuel bounds their number. -/
def matchesFrom (p : Program) : Nat → Nat → Option Nat → Option Char → List Char → List Slots
  | 0, _, _, _, _ => []
  | fuel + 1, index, lastEnd, before, cs =>
    match search p index before cs with
    | none => []
    | some slots =>
      match groupBounds slots 0 with
      | none => []
      | some (first, last) =>
        if first = last ∧ lastEnd = some last then
          match cs with
          | [] => []
          | c :: rest => matchesFrom p fuel (index + 1) lastEnd (some c) rest
        else
          let taken := last - index
          let before := if taken = 0 then before else cs[taken - 1]?
          slots :: matchesFrom p fuel last (some last) before (cs.drop taken)

/-- All matches of a program in a text, in order. -/
def allMatches (p : Program) (cs : List Char) : List Slots :=
  matchesFrom p (2 * cs.length + 2) 0 none none cs

end Spreadsheet.Pattern
