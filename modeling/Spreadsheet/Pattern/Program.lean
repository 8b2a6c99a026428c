import Spreadsheet.Pattern.Basic

/-!
# Pattern programs

A pattern is matched by a program of small steps. Each step names the steps that may come next, the
preferred one first; repetitions are written out, and groups become marks that record a position.
Programs are put together from the end: compiling a pattern takes the step that follows it and gives
the step to start at.
-/

namespace Spreadsheet.Pattern

open Spreadsheet.Text

/-- A step of a program. -/
inductive Step where
  /-- The match is complete. -/
  | done
  /-- Takes one character from the set. -/
  | take (set : CodeSet) (next : Nat)
  /-- Goes on if the place is right. -/
  | check (a : Assertion) (next : Nat)
  /-- Goes on at either step, the first preferred. -/
  | branch (first second : Nat)
  /-- Records the position in a slot. -/
  | mark (slot next : Nat)
deriving Inhabited

/-- A program: its steps, where it starts, and the number of slots that it records positions in. The
slots `2 * i` and `2 * i + 1` hold the ends of group `i`, which is the whole match for zero. -/
structure Program where
  steps : Array Step
  start : Nat
  slots : Nat

/-- Adds a step and gives its place. -/
def emit (step : Step) (steps : Array Step) : Nat × Array Step :=
  (steps.size, steps.push step)

/-- The branch into a body or past it. -/
def intoOrPast (greedy : Bool) (body past : Nat) : Step :=
  if greedy then .branch body past else .branch past body

/-- Writes `n` copies of a body one after the other, from the last to the first. -/
def copies (write : Nat → Array Step → Nat × Array Step) :
    Nat → Nat → Array Step → Nat × Array Step
  | 0, next, steps => (next, steps)
  | n + 1, next, steps =>
    let (entry, steps) := write next steps
    copies write n entry steps

/-- Writes up to `n` copies of a body, each of which may be the last. -/
def optionalCopies (write : Nat → Array Step → Nat × Array Step) (greedy : Bool) (past : Nat) :
    Nat → Nat → Array Step → Nat × Array Step
  | 0, next, steps => (next, steps)
  | n + 1, next, steps =>
    let (body, steps) := write next steps
    let (entry, steps) := emit (intoOrPast greedy body past) steps
    optionalCopies write greedy past n entry steps

/-- Writes a body that is left or entered again after each round: the place of its first step and of
the branch behind it. -/
def loop (write : Nat → Array Step → Nat × Array Step) (greedy : Bool) (past : Nat)
    (steps : Array Step) : Nat × Nat × Array Step :=
  let (again, steps) := emit .done steps
  let (body, steps) := write again steps
  (body, again, steps.setIfInBounds again (intoOrPast greedy body past))

/-- Writes a pattern in front of the step `next` and gives the step to start at. -/
def Node.write : Node → Nat → Array Step → Nat × Array Step
  | .empty, next, steps => (next, steps)
  | .literal cs, next, steps =>
    cs.foldr (fun c (next, steps) => emit (.take (.singleton c.toNat) next) steps) (next, steps)
  | .oneOf set, next, steps => emit (.take set next) steps
  | .assertion a, next, steps => emit (.check a next) steps
  | .sequence a b, next, steps =>
    let (entry, steps) := b.write next steps
    a.write entry steps
  | .choice a b, next, steps =>
    let (first, steps) := a.write next steps
    let (second, steps) := b.write next steps
    emit (.branch first second) steps
  | .group index body, next, steps =>
    let (close, steps) := emit (.mark (2 * index + 1) next) steps
    let (entry, steps) := body.write close steps
    emit (.mark (2 * index) entry) steps
  | .repetition body least none greedy, next, steps =>
    let write := fun next steps => body.write next steps
    let (entry, again, steps) := loop write greedy next steps
    if least = 0 then
      -- A body that can be empty must be tried before it is passed by, so that the groups of an
      -- empty round are recorded.
      if body.canBeEmpty then emit (intoOrPast greedy entry next) steps else (again, steps)
    else copies write (least - 1) entry steps
  | .repetition body least (some most) greedy, next, steps =>
    let write := fun next steps => body.write next steps
    let (entry, steps) := optionalCopies write greedy next (most - least) next steps
    copies write least entry steps

/-- The program of a pattern. -/
def program (p : Pattern) : Program :=
  let (done, steps) := emit .done #[]
  let (start, steps) := (Node.group 0 p.body).write done steps
  { steps, start, slots := 2 * (p.groups + 1) }

end Spreadsheet.Pattern
