import Spreadsheet.Pattern.Basic
import Spreadsheet.Text.Utf8
import Std.Data.HashMap

/-!
# The size of a pattern

A pattern is refused when its automaton over bytes is too large, for reading texts forwards or for
reading them backwards. The automaton itself is not needed: `Node.layOut` counts, in the order in
which they are numbered, the states that a node takes. A state takes 32 bytes; one that chooses by
the next byte takes 8 more for each span of bytes, and a fork 4 more for each way on. States that
agree in all they hold may be shared within one set of characters, as far as a table of bounded
size remembers them.
-/

namespace Spreadsheet.Pattern

open Spreadsheet.Text

/-- The way in which an automaton reads texts. -/
inductive Direction where
  | forward
  | backward
deriving DecidableEq, Repr

/-- What has been laid out: the number of states, and the bytes that their lists take. -/
structure Layout where
  states : Nat := 0
  lists : Nat := 0

/-- The size in bytes. -/
def Layout.size (l : Layout) : Nat := 32 * l.states + l.lists

/-- The greatest size in bytes that an automaton may have. -/
def maxSize : Nat := 10485760

/-- Laying out, which fails as soon as the automaton is too large. -/
abbrev LayoutM := StateT Layout Option

/-- Adds states whose lists take the given bytes, and gives the number of the first. -/
def addStates (count lists : Nat) : LayoutM Nat := fun l =>
  let grown : Layout := ⟨l.states + count, l.lists + lists⟩
  if maxSize < grown.size then none else some (l.states, grown)

/-- The bytes that spans of bytes take in a list. -/
def listedSpans (count : Nat) : Nat := 8 * count

/-- The bytes that the ways on from a fork take. -/
def listedWays (count : Nat) : Nat := 4 * count

/-- The state at the end of what has been laid out. -/
inductive Tail where
  /-- A state with one way on. -/
  | single
  /-- A fork: a way on is one more in its list. -/
  | fork
deriving DecidableEq, Repr

/-- Leads the end of what has been laid out to a further state. -/
def Tail.connect : Tail → LayoutM Unit
  | .single => pure ()
  | .fork => do let _ ← addStates 0 (listedWays 1)

/-! ## Sets of characters -/

/-- States that may be shared. Each place of the table holds the latest state put there: what the
state holds, and its number. -/
abbrev Shared := Std.HashMap Nat (List Nat × Nat)

/-- The place of a state in a table, by the hash FNV-1a over what it holds. -/
def placeOf (places : Nat) (content : List Nat) : Nat :=
  let hash : UInt64 := content.foldl (fun h n => (h ^^^ n.toUInt64) * 0x100000001B3)
    0xCBF29CE484222325
  hash.toNat % places

/-- The number of a state that holds `content`: of a remembered one if there is one, otherwise of a
new one. -/
def sharedState (places : Nat) (content : List Nat) (lists : Nat) :
    StateT Shared LayoutM Nat := do
  let place := placeOf places content
  let known := ((← get)[place]?.filter fun entry => entry.1 = content).map Prod.snd
  match known with
  | some state => return state
  | none =>
    let state ← addStates 1 lists
    modify fun table => table.insert place (content, state)
    return state

/-- Lays out sequences of byte spans that are read from the left, those with a common beginning
together, and gives the number of the state to start at. The depth bounds their lengths. -/
def layOutTree (target : Nat) : Nat → List (List Span) → StateT Shared LayoutM Nat
  | 0, _ => return target
  | depth + 1, sequences => do
    if sequences.all List.isEmpty then return target
    let links ← (sequences.splitBy fun a b => a.head? = b.head?).mapM fun alike => do
      let next ← layOutTree target depth (alike.map List.tail)
      match alike.head?.bind List.head? with
      | some span => return [span.first, span.last, next]
      | none => return []
    sharedState 10000 links.flatten (listedSpans links.length)

/-- Lays out a sequence of byte spans that is read from the right, in front of `target`. -/
def layOutBackward (target : Nat) (spans : List Span) : StateT Shared LayoutM Nat :=
  spans.foldlM (fun next span => sharedState 1000 [next, span.first, span.last] 0) target

/-- Lays out a set. ASCII characters are single bytes, and one choice takes them all. -/
def layOutSet (d : Direction) (set : CodeSet) : LayoutM Tail := do
  let spans := set.spans.toList
  if spans.all (·.last < 0x80) then
    let _ ← addStates 2 (listedSpans spans.length)
  else
    let sequences := spans.flatMap Span.byteSpans
    match d with
    | .forward =>
      let target ← addStates 1 0
      let _ ← (layOutTree target 4 sequences).run {}
    | .backward =>
      let target ← addStates 2 (listedWays sequences.length)
      let _ ← (sequences.forM fun spans => discard (layOutBackward (target + 1) spans)).run {}
  return .single

/-! ## Choices between literals -/

/-- Lays out words in the order of preference, those with a common beginning together as long as
no word that ends there stands between them. The depth bounds their lengths. -/
def layOutWords : Nat → List (List UInt8) → LayoutM Unit
  | 0, _ => pure ()
  | depth + 1, words => do
    if words.all List.isEmpty then return
    -- Words that end here one after the other, in front of all others, count once.
    let first := words.dropWhile List.isEmpty
    let ends := min 1 (words.length - first.length) + first.countP List.isEmpty
    let runs := (first.splitBy fun a b => a.isEmpty = b.isEmpty).filter fun run =>
      !run.all List.isEmpty
    for run in runs do
      let bytes := (run.filterMap List.head?).eraseDups
      let _ ← addStates 1 (if bytes.length = 1 then 0 else listedSpans bytes.length)
      for byte in bytes do
        layOutWords depth (run.filterMap fun word =>
          if word.head? = some byte then some word.tail else none)
    let _ ← addStates 1 (listedWays (runs.length + ends))

/-- The bytes of literals, in the order in which they are read, if all branches are literals. -/
def literalWords? (d : Direction) (branches : List Node) : Option (List (List UInt8)) :=
  branches.mapM fun
    | .literal cs =>
      let bytes := cs.flatMap String.utf8EncodeChar
      some (if d = .forward then bytes else bytes.reverse)
    | _ => none

/-! ## Nodes -/

/-- Lays out further branches of a choice. -/
def layOutFurther : List (LayoutM Tail) → LayoutM Unit
  | [] => pure ()
  | branch :: rest => do
    let tail ← branch
    let _ ← addStates 0 (listedWays 1)
    tail.connect
    layOutFurther rest

/-- Lays out the branches of a choice. -/
def layOutBranches : List (LayoutM Tail) → LayoutM Tail
  | [] => do
    let _ ← addStates 1 0
    return .single
  | [only] => only
  | first :: second :: rest => do
    let one ← first
    let two ← second
    let _ ← addStates 2 (listedWays 2)
    one.connect
    two.connect
    layOutFurther rest
    return .single

/-- Lays out a node, given how its branches are laid out. Literals are laid out together. -/
def layOutJoined (d : Direction) (n : Node) (branches : List (LayoutM Tail)) : LayoutM Tail :=
  match n with
  | .choice _ _ =>
    match literalWords? d n.branches with
    | some words => do
      let _ ← addStates 1 0
      layOutWords (words.foldl (fun depth word => max depth word.length) 0) words
      return .single
    | none => layOutBranches branches
  | _ => layOutBranches branches

/-- Lays out `n` more copies of a body behind one that has been laid out. -/
def layOutMore (body : LayoutM Tail) : Nat → Tail → LayoutM Tail
  | 0, tail => return tail
  | n + 1, tail => do
    let next ← body
    tail.connect
    layOutMore body n next

/-- Lays out `n` copies of a body one behind the other. -/
def layOutCopies (body : LayoutM Tail) : Nat → LayoutM Tail
  | 0 => do
    let _ ← addStates 1 0
    return .single
  | n + 1 => do layOutMore body n (← body)

/-- Lays out up to `n` copies of a body behind what has been laid out, each of which may be the
last. -/
def layOutOptional (body : LayoutM Tail) : Nat → Tail → LayoutM Tail
  | 0, tail => return tail
  | n + 1, tail => do
    let _ ← addStates 1 (listedWays 2)
    let next ← body
    tail.connect
    layOutOptional body n next

/-- Lays out a repetition without an upper bound. -/
def layOutLoop (body : LayoutM Tail) (canBeEmpty : Bool) : Nat → LayoutM Tail
  | 0 => do
    if canBeEmpty then
      let tail ← body
      let _ ← addStates 3 (listedWays 4)
      tail.connect
      return .single
    else
      let _ ← addStates 1 (listedWays 1)
      (← body).connect
      return .fork
  | 1 => do
    let tail ← body
    let _ ← addStates 1 (listedWays 1)
    tail.connect
    return .fork
  | least + 1 => do
    let tail ← layOutCopies body least
    let last ← body
    let _ ← addStates 1 (listedWays 1)
    tail.connect
    last.connect
    return .fork

/-- Lays out a repetition with an upper bound. -/
def layOutBounded (body : LayoutM Tail) (least most : Nat) : LayoutM Tail := do
  if least = 0 ∧ most = 1 then
    let _ ← addStates 1 (listedWays 2)
    let tail ← body
    let _ ← addStates 1 0
    tail.connect
    return .single
  else
    let tail ← layOutCopies body least
    if least = most then return tail
    let _ ← addStates 1 0
    (← layOutOptional body (most - least) tail).connect
    return .single

/-- How the branches of a node are laid out; a node that is no choice is its only branch. -/
def Node.branchLayouts (d : Direction) : Node → List (LayoutM Tail)
  | .choice a b => layOutJoined d a (a.branchLayouts d) :: b.branchLayouts d
  | .empty | .assertion _ => [layOutBranches []]
  | .literal cs => [do
      let _ ← addStates (cs.map Char.utf8Size).sum 0
      return .single]
  | .oneOf set => [layOutSet d set]
  | .sequence a b =>
    let first := layOutJoined d a (a.branchLayouts d)
    let second := layOutJoined d b (b.branchLayouts d)
    let (first, second) := if d = .forward then (first, second) else (second, first)
    [do
      let tail ← first
      let last ← second
      tail.connect
      return last]
  | .repetition body least most _ =>
    let inner := layOutJoined d body (body.branchLayouts d)
    match most with
    | none => [layOutLoop inner body.canBeEmpty least]
    | some most => [layOutBounded inner least most]
  | .group _ body =>
    let inner := layOutJoined d body (body.branchLayouts d)
    match d with
    | .forward => [do
        let _ ← addStates 1 0
        let tail ← inner
        let _ ← addStates 1 0
        tail.connect
        return .single]
    | .backward => [inner]

/-- Lays out a node. -/
def Node.layOut (d : Direction) (n : Node) : LayoutM Tail := layOutJoined d n (n.branchLayouts d)

/-- Whether every match starts at the start of the text. -/
def Node.startsText : Node → Bool
  | .assertion a => a = .textStart
  | .sequence a b => a.startsText || (a.isZeroWidth && b.startsText)
  | .choice a b => a.startsText && b.startsText
  | .repetition body least _ _ => least ≠ 0 && body.startsText
  | .group _ body => body.startsText
  | _ => false

/-- Whether a node takes no character, and whether every match of it ends at the end of the text. -/
def Node.ending : Node → Bool × Bool
  | .sequence a b =>
    let (zeroWidthA, endsA) := a.ending
    let (zeroWidthB, endsB) := b.ending
    (zeroWidthA && zeroWidthB, endsB || (zeroWidthB && endsA))
  | .choice a b =>
    let (zeroWidthA, endsA) := a.ending
    let (zeroWidthB, endsB) := b.ending
    (zeroWidthA && zeroWidthB, endsA && endsB)
  | .repetition body least most _ =>
    let (zeroWidth, ends) := body.ending
    (zeroWidth && most.isSome, least ≠ 0 && ends)
  | .group _ body => body.ending
  | .assertion a => (true, a = .textEnd)
  | n => (n.isZeroWidth, false)

/-- Whether every match ends at the end of the text. -/
def Node.endsText (n : Node) : Bool := n.ending.2

/-- Lays out a whole automaton: a start, which passes over bytes unless every match lies at the end
of the text that is read first, the pattern as group zero, and a final state. -/
def layOutAutomaton (d : Direction) (n : Node) : LayoutM Unit := do
  let anchored := match d with
    | .forward => n.startsText
    | .backward => n.endsText
  let _ ← if anchored then addStates 1 0 else addStates 3 (listedSpans 1 + listedWays 2)
  let tail ← (Node.group 0 n).layOut d
  let _ ← addStates 1 0
  tail.connect

/-- The least number of literals that are looked for together, without an automaton, when a pattern
is nothing but a choice between them. -/
def manyLiterals : Nat := 3000

/-- Whether a pattern is small enough. -/
def Node.fits (n : Node) : Bool :=
  (manyLiterals ≤ n.branches.length && (literalWords? .forward n.branches).isSome)
    || [Direction.forward, .backward].all fun d => (layOutAutomaton d n |>.run {}).isSome

end Spreadsheet.Pattern
