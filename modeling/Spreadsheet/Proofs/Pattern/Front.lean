import Mathlib.Data.List.Basic
import Spreadsheet.Pattern.Replacement

/-!
# The threads at a place

A search marks the steps that it reaches with the place at which it reached them, so what it does at
one place depends on marks left at earlier ones only in that they are older. A `Front` says what a
search has done at one place, without marks: the threads that wait, and the steps that were reached
there. It is followed (`Front.follow`) and moved past a character (`Front.advance`) as the threads
are, and stands for them throughout (`Front.Tracks.follow`, `Front.Tracks.advance`). Whether a step
takes the character is a parameter, so that a program can be run on a class of characters at once.
-/

namespace Spreadsheet.Pattern

/-- The threads that wait at a place, in order of preference, and the steps reached there. -/
structure Front where
  waiting : List Thread := []
  reached : List Nat := []

namespace Front

variable {p : Program} {here next : Place} {c : Char} {takes : Nat → Bool} {fuel : Nat}
  {stack rest : List Thread} {threads : Threads} {front : Front} {t : Thread}

/-- Follows the steps on the stack that take no character, as `Pattern.follow` does. -/
def follow (p : Program) (here : Place) : Nat → List Thread → Front → Front
  | 0, _, front => front
  | _, [], front => front
  | fuel + 1, t :: stack, front =>
    if t.step ∈ front.reached then follow p here fuel stack front
    else
      let front := { front with reached := t.step :: front.reached }
      match p.steps[t.step]? with
      | none => follow p here fuel stack front
      | some (.branch first second) =>
        follow p here fuel ({ t with step := first } :: { t with step := second } :: stack) front
      | some (.check a next) =>
        follow p here fuel (if a.holds here then { t with step := next } :: stack else stack) front
      | some (.mark slot next) =>
        follow p here fuel (⟨next, t.slots.setIfInBounds slot (some here.index)⟩ :: stack) front
      | some .done | some (.take _ _) =>
        follow p here fuel stack { front with waiting := front.waiting ++ [t] }

/-- Moves threads past a character that the given steps take, as `advanceThreads` does. -/
def advance (p : Program) (takes : Nat → Bool) (next : Place) :
    List Thread → Front → Front × Option Slots
  | [], front => (front, none)
  | t :: rest, front =>
    match p.steps[t.step]? with
    | some .done => (front, some t.slots)
    | some (.take _ after) =>
      let front :=
        if takes t.step then front.follow p next (2 * p.steps.size + 2) [⟨after, t.slots⟩]
        else front
      advance p takes next rest front
    | _ => advance p takes next rest front

/-- A front stands for the threads at a place: the same threads wait, and the steps it has reached
are those that are marked with the place. No mark is newer. -/
structure Tracks (p : Program) (index : Nat) (threads : Threads) (front : Front) : Prop where
  waiting : threads.waiting.toList = front.waiting
  size : threads.reached.size = p.steps.size
  reached : ∀ step < p.steps.size, threads.reached.getD step 0 = index + 1 ↔ step ∈ front.reached
  bound : ∀ step, threads.reached.getD step 0 ≤ index + 1

namespace Tracks

variable {index : Nat}

/-- Before a search starts, no step has been reached. -/
theorem unreached (p : Program) :
    Tracks p 0 { reached := Array.replicate p.steps.size 0 } {} where
  waiting := rfl
  size := Array.size_replicate
  reached step hstep := by simp [hstep]
  bound step := by
    rw [Array.getD_eq_getD_getElem?, Array.getElem?_replicate]
    split <;> exact Nat.zero_le _

/-- What is known of a place is all older at the next one. -/
theorem moved (h : Tracks p index threads front) :
    Tracks p (index + 1) { reached := threads.reached } {} where
  waiting := rfl
  size := h.size
  reached step _ := by
    have hb := h.bound step
    simp only [List.not_mem_nil, iff_false]
    omega
  bound step := Nat.le_succ_of_le (h.bound step)

theorem mark (h : Tracks p index threads front) (step : Nat) :
    Tracks p index
      { threads with reached := threads.reached.setIfInBounds step (index + 1) }
      { front with reached := step :: front.reached } where
  waiting := h.waiting
  size := by rw [Array.size_setIfInBounds, h.size]
  reached other hother := by
    have hreached := h.reached other hother
    simp only [Array.getD_eq_getD_getElem?, Array.getElem?_setIfInBounds, h.size] at hreached ⊢
    by_cases ho : step = other
    · simp [ho, hother]
    · simp [ho, Ne.symm ho, hreached]
  bound other := by
    have hbound := h.bound other
    simp only [Array.getD_eq_getD_getElem?, Array.getElem?_setIfInBounds] at hbound ⊢
    split
    · split <;> simp
    · exact hbound

theorem wait (h : Tracks p index threads front) (t : Thread) :
    Tracks p index { threads with waiting := threads.waiting.push t }
      { front with waiting := front.waiting ++ [t] } where
  waiting := by rw [Array.toList_push, h.waiting]
  size := h.size
  reached := h.reached
  bound := h.bound

/-- A place that the program does not have is followed nowhere. -/
theorem steps_eq_none (h : Tracks p index threads front) {step : Nat}
    (hnew : threads.reached.getD step 0 ≠ index + 1) (hold : step ∈ front.reached) :
    p.steps[step]? = none := by
  rw [Array.getElem?_eq_none_iff]
  exact Nat.le_of_not_lt fun hlt => hnew ((h.reached step hlt).mpr hold)

theorem lt_size (h : Tracks p index threads front) {step : Nat}
    (hold : threads.reached.getD step 0 = index + 1) : step < p.steps.size := by
  by_contra hsize
  rw [Array.getD_eq_getD_getElem?, Array.getElem?_eq_none (by rw [h.size]; omega)] at hold
  cases hold

protected theorem follow (here : Place) (h : Tracks p here.index threads front) :
    Tracks p here.index (Pattern.follow p here fuel stack threads)
      (front.follow p here fuel stack) := by
  induction fuel generalizing stack threads front with
  | zero => exact h
  | succ fuel ih =>
    cases stack with
    | nil => exact h
    | cons t stack =>
      by_cases hold : threads.reached.getD t.step 0 = here.index + 1
      · rw [Pattern.follow, Front.follow, if_pos hold,
          if_pos ((h.reached t.step (h.lt_size hold)).mp hold)]
        exact ih h
      · have hm := h.mark t.step
        by_cases hmem : t.step ∈ front.reached
        · have hnone := h.steps_eq_none hold hmem
          rw [Pattern.follow, Front.follow, if_neg hold, if_pos hmem]
          simp only [hnone]
          rw [Array.setIfInBounds_eq_of_size_le (by rw [h.size]; simpa using hnone)]
          exact ih h
        · rw [Pattern.follow, Front.follow, if_neg hold, if_neg hmem]
          cases hstep : p.steps[t.step]? with
          | none => exact ih hm
          | some step =>
            cases step with
            | done => exact ih (hm.wait t)
            | take set after => exact ih (hm.wait t)
            | check a after => exact ih hm
            | branch first second => exact ih hm
            | mark slot after => exact ih hm

/-- Threads are moved past a character as their front is past the steps that take it. -/
protected theorem advance (next : Place) (h : Tracks p next.index threads front)
    (htakes : ∀ step set after, p.steps[step]? = some (.take set after) →
      set.contains c.toNat = takes step) (stack : List Thread) :
    Tracks p next.index (advanceThreads p c next stack threads).1
        (front.advance p takes next stack).1 ∧
      (advanceThreads p c next stack threads).2 = (front.advance p takes next stack).2 := by
  induction stack generalizing threads front with
  | nil => exact ⟨h, rfl⟩
  | cons t rest ih =>
    rw [advanceThreads, Front.advance]
    cases hstep : p.steps[t.step]? with
    | none => exact ih h
    | some step =>
      cases step with
      | done => exact ⟨h, rfl⟩
      | take set after =>
        simp only [htakes t.step set after hstep]
        cases takes t.step with
        | false => exact ih h
        | true => exact ih (h.follow next)
      | check a after => exact ih h
      | branch first second => exact ih h
      | mark slot after => exact ih h

end Tracks

end Front

/-! ## Searches -/

section Search

variable (p : Program) (index : Nat) (before : Option Char) (found : Option Slots)
  (threads : Threads)

/-- The threads at a place, with the one that starts there if no match has been found. -/
def entered (here : Place) (found : Option Slots) (threads : Threads) : Threads :=
  if found.isNone then threads.start p here ⟨p.start, Array.replicate p.slots none⟩ else threads

theorem searchFrom_nil : searchFrom p index before found threads [] =
    (completed p (entered p ⟨index, before, none⟩ found threads).waiting.toList <|> found) :=
  rfl

theorem searchFrom_cons (c : Char) (rest : List Char) :
    searchFrom p index before found threads (c :: rest) =
      let threads := entered p ⟨index, before, some c⟩ found threads
      let moved := advanceThreads p c ⟨index + 1, some c, rest.head?⟩ threads.waiting.toList
        { reached := threads.reached }
      if threads.waiting.isEmpty && found.isSome then found
      else searchFrom p (index + 1) (some c) (moved.2 <|> found) moved.1 rest :=
  rfl

end Search

/-- The text of the first match of a pattern. -/
def firstMatch? (p : Pattern) (text : List Char) : Option (List Char) :=
  (search (program p) 0 none text).map fun slots => groupText text.toArray slots 0

end Spreadsheet.Pattern
