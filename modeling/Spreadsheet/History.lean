/-!
# History

A history holds the current state of something that is edited, the states before it, up to a limit,
and the states that were undone.
-/

namespace Spreadsheet

/-- The states around the current one. -/
structure History (α : Type) where
  current : α
  /-- The states that can be gone back to, the latest first. -/
  past : List α := []
  /-- The states that were undone, the one undone last first. -/
  future : List α := []
  /-- How many past states an edit leaves. -/
  limit : Nat

namespace History

/-- Why a step through the history cannot be made. -/
inductive Error where
  | nothingToUndo
  | nothingToRedo
deriving DecidableEq, Repr

/-- The text of an error. -/
def Error.message : Error → String
  | .nothingToUndo => "Nothing to undo"
  | .nothingToRedo => "Nothing to redo"

/-- How many past states are kept where nothing else is said. -/
def usualLimit : Nat := 100

variable {α : Type}

/-- The history that starts with a state. -/
def start (state : α) (limit : Nat) : History α := { current := state, limit }

/-- Whether there is a past state. -/
def canUndo (h : History α) : Bool := !h.past.isEmpty

/-- Whether there is an undone state. -/
def canRedo (h : History α) : Bool := !h.future.isEmpty

/-- Makes a new state the current one. The oldest states beyond the limit are dropped, and so are
the undone ones. -/
def apply (h : History α) (state : α) : History α :=
  { h with current := state, past := (h.current :: h.past).take h.limit, future := [] }

/-- Goes back to the state before the current one. -/
def undo (h : History α) : Except Error (History α) :=
  match h.past with
  | [] => .error .nothingToUndo
  | state :: past => .ok { h with current := state, past, future := h.current :: h.future }

/-- Goes forward to the state that was undone last. -/
def redo (h : History α) : Except Error (History α) :=
  match h.future with
  | [] => .error .nothingToRedo
  | state :: future => .ok { h with current := state, past := h.current :: h.past, future }

end History

end Spreadsheet
