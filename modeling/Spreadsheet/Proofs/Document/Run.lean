import Spreadsheet.Settings
import Spreadsheet.Snapshot.Json

/-!
# Runs

A document starts as an empty sheet, as the sheet that settings ask for, or as one that was stored,
and is then edited. A run is a list of edits made one after the other; an edit that cannot be made
leaves the sheet as it is. What every edit keeps, every run keeps (`run_keeps`).

Lengths are indices, so an insertion has to find room for the length that it makes
(`FindsRoom`). `AllAlong` asks this, or anything else, of all the edits of a run.
-/

namespace Spreadsheet

namespace Document

/-! ## Operations -/

/-- An edit of a document with its arguments. -/
inductive Operation where
  | setCell (p : Position) (value : Value) (formula : Option String)
  | setInput (p : Position) (input : String)
  | setFormat (p : Position) (format : Format)
  | clearCell (p : Position)
  | setSize (axis : Axis) (index : Nat) (size : Float)
  | insert (axis : Axis) (index : Nat)
  | delete (axis : Axis) (index : Nat)
  | removeDuplicateRows (range : String)
  | findAndReplace (range pattern replacement : String)
  | evaluateCell (p : Position)
  | recalculate

/-- Makes the edit. -/
def Operation.apply (d : Document) : Operation → Except Error Document
  | .setCell p value formula => d.setCell p value formula
  | .setInput p input => d.setInput p input
  | .setFormat p format => d.setFormat p format
  | .clearCell p => d.clearCell p
  | .setSize axis index size => d.setSize axis index size
  | .insert axis index => d.insert axis index
  | .delete axis index => d.delete axis index
  | .removeDuplicateRows range => d.removeDuplicateRows range
  | .findAndReplace range pattern replacement => d.findAndReplace range pattern replacement
  | .evaluateCell p => d.evaluateCell p
  | .recalculate => .ok d.recalculate

/-- The sheet after an edit, or as it was if the edit cannot be made. -/
def step (d : Document) (o : Operation) : Document :=
  match o.apply d with
  | .ok e => e
  | .error _ => d

/-- The sheet after some edits. -/
def run (d : Document) (os : List Operation) : Document := os.foldl step d

/-- Whether there is an index left for the length after an edit: an insertion makes it one more. -/
def FindsRoom (d : Document) : Operation → Prop
  | .insert axis _ => d.length axis < Numeric.maxIndex
  | _ => True

/-- Whether every edit of a run stands in a relation to the sheet that it is made on. -/
def AllAlong (Q : Document → Operation → Prop) (d : Document) : List Operation → Prop
  | [] => True
  | o :: os => Q d o ∧ AllAlong Q (d.step o) os

theorem allAlong_of_forall {Q : Operation → Prop} {os : List Operation} (h : ∀ o ∈ os, Q o)
    (d : Document) : AllAlong (fun _ o => Q o) d os := by
  induction os generalizing d with
  | nil => trivial
  | cons o os ih =>
    obtain ⟨ho, hos⟩ := List.forall_mem_cons.mp h
    exact ⟨ho, ih hos (d.step o)⟩

/-- What every edit of a kind keeps, every run of such edits keeps. -/
theorem run_keeps {P : Document → Prop} {Q : Document → Operation → Prop}
    (keeps : ∀ (o : Operation) (d e : Document), Q d o → P d → o.apply d = .ok e → P e) :
    ∀ (os : List Operation) (d : Document), AllAlong Q d os → P d → P (d.run os) := by
  intro os
  induction os with
  | nil => intro d _ hd; exact hd
  | cons o os ih =>
    intro d hos hd
    refine ih (d.step o) hos.2 ?_
    unfold step
    split
    · rename_i e he
      exact keeps o d e hos.1 hd he
    · exact hd

/-! ## Origins -/

/-- Where a document comes from. -/
inductive Origin where
  | empty (rows cols : Nat)
  | settings (s : Settings)
  | snapshot (s : Snapshot)
  | stored (json : String)

/-- The document at the start. -/
def Origin.document : Origin → Except Snapshot.Error Document
  | .empty rows cols => .ok (.empty rows cols)
  | .settings s => .ok s.newDocument
  | .snapshot s => s.document
  | .stored json => Snapshot.read json

end Document

end Spreadsheet
