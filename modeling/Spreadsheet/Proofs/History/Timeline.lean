import Mathlib.Order.Lattice.Nat
import Spreadsheet.History

/-!
# Histories as timelines

A `Timeline` keeps every state on one line and moves a cursor over it; a floor below the cursor says
how far back it can go. `Timeline.history` is what a history holds of it: the state under the
cursor, the stretch from the floor to the cursor, and all that follows the cursor. Every call does
the same to both (`history_call`), so after any calls a history is what the timeline says, and the
calls have had the same answers (`answers_eq_and_run_agrees`).

A history counts its past states, and a timeline knows where they end. The two limits come to the
same because only a new state raises the floor: it is the larger of the old floor and the place that
the limit leaves, however often the cursor has gone back before.
-/

namespace Spreadsheet

variable {α : Type}

attribute [ext] History

/-! ## Calls -/

namespace History

/-- A call of one of the operations on a history. -/
inductive Call (α : Type) where
  | apply (state : α)
  | undo
  | redo

/-- Makes a call. -/
def call (h : History α) : Call α → Except Error (History α)
  | .apply state => .ok (h.apply state)
  | .undo => h.undo
  | .redo => h.redo

/-- The history after a call, or as it was if the call fails. -/
def afterCall (h : History α) (c : Call α) : History α := (h.call c).toOption.getD h

/-- The history after some calls. -/
def run (h : History α) (calls : List (Call α)) : History α := calls.foldl afterCall h

/-- What each of some calls answers: the state that is current then, or why it fails. -/
def answers (h : History α) : List (Call α) → List (Except Error α)
  | [] => []
  | c :: calls => (h.call c).map current :: (h.afterCall c).answers calls

end History

/-! ## Timelines -/

/-- All states in a line, with a cursor on the current one and a floor that the cursor stays on or
above. -/
structure Timeline (α : Type) where
  states : List α
  cursor : Nat
  floor : Nat
  /-- How far from the cursor a new state leaves the floor. -/
  limit : Nat
  floor_le : floor ≤ cursor
  cursor_lt : cursor < states.length

namespace Timeline

/-- The timeline that starts with a state. -/
def start (state : α) (limit : Nat) : Timeline α := ⟨[state], 0, 0, limit, by simp, by simp⟩

/-- The state under the cursor. -/
def current (t : Timeline α) : α := t.states.get ⟨t.cursor, t.cursor_lt⟩

/-- Puts a new state behind the current one, in place of all that followed it. -/
def apply (t : Timeline α) (state : α) : Timeline α where
  states := t.states.take (t.cursor + 1) ++ [state]
  cursor := t.cursor + 1
  floor := max t.floor (t.cursor + 1 - t.limit)
  limit := t.limit
  floor_le := by have := t.floor_le; omega
  cursor_lt := by have := t.cursor_lt; simp; omega

/-- Moves the cursor back, unless it is on the floor. -/
def undo (t : Timeline α) : Except History.Error (Timeline α) :=
  if h : t.cursor = t.floor then .error .nothingToUndo
  else .ok { t with
    cursor := t.cursor - 1
    floor_le := by have := t.floor_le; omega
    cursor_lt := by have := t.cursor_lt; omega }

/-- Moves the cursor forward, unless it is at the end. -/
def redo (t : Timeline α) : Except History.Error (Timeline α) :=
  if h : t.cursor + 1 = t.states.length then .error .nothingToRedo
  else .ok { t with
    cursor := t.cursor + 1
    floor_le := by have := t.floor_le; omega
    cursor_lt := by have := t.cursor_lt; omega }

/-- Makes a call. -/
def call (t : Timeline α) : History.Call α → Except History.Error (Timeline α)
  | .apply state => .ok (t.apply state)
  | .undo => t.undo
  | .redo => t.redo

/-- The timeline after a call, or as it was if the call fails. -/
def afterCall (t : Timeline α) (c : History.Call α) : Timeline α := (t.call c).toOption.getD t

/-- The timeline after some calls. -/
def run (t : Timeline α) (calls : List (History.Call α)) : Timeline α := calls.foldl afterCall t

/-- What each of some calls answers. -/
def answers (t : Timeline α) : List (History.Call α) → List (Except History.Error α)
  | [] => []
  | c :: calls => (t.call c).map current :: (t.afterCall c).answers calls

/-! ## The history of a timeline -/

/-- What a history holds of a timeline. -/
def history (t : Timeline α) : History α where
  current := t.current
  past := ((t.states.take t.cursor).drop t.floor).reverse
  future := t.states.drop (t.cursor + 1)
  limit := t.limit

variable (t : Timeline α)

theorem history_start (state : α) (limit : Nat) :
    (start state limit).history = .start state limit := rfl

/-- The current state in front of the past ones is the stretch up to it. -/
theorem current_cons_past :
    t.current :: t.history.past = ((t.states.take (t.cursor + 1)).drop t.floor).reverse := by
  have hl : t.floor ≤ (t.states.take t.cursor).length := by
    have := t.floor_le
    have := t.cursor_lt
    simp only [List.length_take]
    omega
  rw [← List.take_append_getElem t.cursor_lt, List.drop_append_of_le_length hl,
    List.reverse_append]
  rfl

/-- The current state in front of the undone ones is the stretch from it on. -/
theorem current_cons_future : t.current :: t.history.future = t.states.drop t.cursor :=
  List.getElem_cons_drop t.cursor_lt

theorem length_past : t.history.past.length = t.cursor - t.floor := by
  have := t.cursor_lt
  simp only [history, List.length_reverse, List.length_drop, List.length_take]
  omega

theorem length_future : t.history.future.length = t.states.length - (t.cursor + 1) :=
  List.length_drop

theorem history_apply (state : α) : (t.apply state).history = t.history.apply state := by
  have hc := t.cursor_lt
  have hlen : (t.states.take (t.cursor + 1)).length = t.cursor + 1 := by
    simp only [List.length_take]
    omega
  have hfloor : t.floor + (t.cursor + 1 - t.floor - t.limit) =
      max t.floor (t.cursor + 1 - t.limit) := by
    have := t.floor_le
    omega
  have hpast : (t.apply state).history.past = (t.current :: t.history.past).take t.limit := by
    rw [current_cons_past, List.take_reverse, List.drop_drop, List.length_drop, hlen, hfloor]
    simp only [history, apply, List.take_left' hlen]
  have hcurrent : (t.apply state).current = state := by
    simp [current, apply, hlen]
  have hfuture : (t.apply state).history.future = [] := by
    simp [history, apply, hlen]
  exact History.ext hcurrent hpast hfuture rfl

theorem history_undo : t.undo.map history = t.history.undo := by
  have hlen := t.length_past
  unfold undo History.undo
  split
  · rename_i h
    have hpast : t.history.past = [] := List.eq_nil_of_length_eq_zero (by omega)
    rw [hpast]
    rfl
  · rename_i h
    have hc := t.cursor_lt
    have hsucc : t.cursor - 1 + 1 = t.cursor := by
      have := t.floor_le
      omega
    -- The state before the cursor is the latest past one, and becomes the current one.
    have hback := current_cons_past { t with
      cursor := t.cursor - 1
      floor_le := by have := t.floor_le; omega
      cursor_lt := by omega }
    rw [hsucc] at hback
    have hpast : t.history.past = _ := hback.symm
    rw [hpast]
    refine congrArg Except.ok (History.ext rfl rfl ?_ rfl)
    have hfuture := t.current_cons_future
    simp only [history, hsucc] at hfuture ⊢
    exact hfuture.symm

theorem history_redo : t.redo.map history = t.history.redo := by
  have hlen := t.length_future
  unfold redo History.redo
  split
  · rename_i h
    have hfuture : t.history.future = [] := List.eq_nil_of_length_eq_zero (by omega)
    rw [hfuture]
    rfl
  · rename_i h
    have hc := t.cursor_lt
    -- The state behind the cursor was undone last, and becomes the current one.
    have hnext := current_cons_future { t with
      cursor := t.cursor + 1
      floor_le := by have := t.floor_le; omega
      cursor_lt := by omega }
    have hfuture : t.history.future = _ := hnext.symm
    rw [hfuture]
    exact congrArg Except.ok (History.ext rfl t.current_cons_past.symm rfl rfl)

/-- A call does to the history of a timeline what it does to the timeline. -/
theorem history_call (c : History.Call α) : (t.call c).map history = t.history.call c := by
  cases c with
  | apply state => exact congrArg Except.ok (t.history_apply state)
  | undo => exact t.history_undo
  | redo => exact t.history_redo

theorem history_afterCall (c : History.Call α) :
    (t.afterCall c).history = t.history.afterCall c := by
  unfold afterCall History.afterCall
  rw [← history_call]
  cases t.call c <;> rfl

theorem answer_eq (c : History.Call α) :
    (t.call c).map current = (t.history.call c).map History.current := by
  rw [← history_call]
  cases t.call c <;> rfl

/-! ## Runs -/

theorem history_run (calls : List (History.Call α)) :
    ∀ t : Timeline α, (t.run calls).history = t.history.run calls := by
  induction calls with
  | nil => intro t; rfl
  | cons c calls ih =>
    intro t
    unfold run History.run at ih ⊢
    rw [List.foldl_cons, List.foldl_cons, ih, history_afterCall]

theorem answers_eq (calls : List (History.Call α)) :
    ∀ t : Timeline α, t.answers calls = t.history.answers calls := by
  induction calls with
  | nil => intro t; rfl
  | cons c calls ih =>
    intro t
    unfold answers History.answers
    rw [answer_eq, ih, history_afterCall]

/-! ## What a timeline says of its history -/

/-- What a timeline says of the history that it stands for. -/
structure Agrees (t : Timeline α) (h : History α) : Prop where
  current : t.states[t.cursor]? = some h.current
  canUndo : h.canUndo ↔ t.floor < t.cursor
  canRedo : h.canRedo ↔ t.cursor + 1 < t.states.length
  undo_fails : ∀ e, h.undo = .error e ↔ e = .nothingToUndo ∧ t.cursor = t.floor
  redo_fails : ∀ e, h.redo = .error e ↔ e = .nothingToRedo ∧ t.cursor + 1 = t.states.length
  failed : ∀ c e, h.call c = .error e → h.afterCall c = h
  redo_undo : ∀ g, h.undo = .ok g → g.redo = .ok h
  undo_redo : ∀ g, h.redo = .ok g → g.undo = .ok h

theorem undo_eq_error_iff (e : History.Error) :
    t.undo = .error e ↔ e = .nothingToUndo ∧ t.cursor = t.floor := by
  unfold undo
  split
  · rename_i h
    simp [h, eq_comm]
  · rename_i h
    simp [h]

theorem redo_eq_error_iff (e : History.Error) :
    t.redo = .error e ↔ e = .nothingToRedo ∧ t.cursor + 1 = t.states.length := by
  unfold redo
  split
  · rename_i h
    simp [h, eq_comm]
  · rename_i h
    simp [h]

theorem map_history_eq_error_iff (r : Except History.Error (Timeline α)) (e : History.Error) :
    r.map history = .error e ↔ r = .error e := by
  cases r <;> simp [Except.map]

end Timeline

namespace History

variable {h g : History α}

theorem redo_of_undo (hu : h.undo = .ok g) : g.redo = .ok h := by
  obtain ⟨current, past, future, limit⟩ := h
  cases past with
  | nil => cases hu
  | cons state past =>
    cases hu
    rfl

theorem undo_of_redo (hr : h.redo = .ok g) : g.undo = .ok h := by
  obtain ⟨current, past, future, limit⟩ := h
  cases future with
  | nil => cases hr
  | cons state future =>
    cases hr
    rfl

theorem afterCall_of_error {c : Call α} {e : Error} (he : h.call c = .error e) :
    h.afterCall c = h := by
  unfold afterCall
  rw [he]
  rfl

end History

theorem Timeline.agrees_history (t : Timeline α) : t.Agrees t.history where
  current := List.getElem?_eq_getElem t.cursor_lt
  canUndo := by
    have := t.floor_le
    rw [History.canUndo, Bool.not_eq_true', List.isEmpty_eq_false_iff, ← List.length_pos_iff,
      length_past]
    omega
  canRedo := by
    rw [History.canRedo, Bool.not_eq_true', List.isEmpty_eq_false_iff, ← List.length_pos_iff,
      length_future]
    omega
  undo_fails e := by rw [← history_undo, map_history_eq_error_iff, undo_eq_error_iff]
  redo_fails e := by rw [← history_redo, map_history_eq_error_iff, redo_eq_error_iff]
  failed _ _ := History.afterCall_of_error
  redo_undo _ := History.redo_of_undo
  undo_redo _ := History.undo_of_redo

/-- Whatever is called on a history, each call answers what it answers on the timeline, and what is
left is the history of the timeline. -/
theorem History.answers_eq_and_run_agrees (state : α) (limit : Nat) (calls : List (Call α)) :
    (start state limit).answers calls = (Timeline.start state limit).answers calls ∧
      (start state limit).run calls = ((Timeline.start state limit).run calls).history ∧
      ((Timeline.start state limit).run calls).Agrees ((start state limit).run calls) := by
  have hr := Timeline.history_run calls (.start state limit)
  rw [Timeline.history_start] at hr
  refine ⟨?_, hr.symm, ?_⟩
  · rw [Timeline.answers_eq, Timeline.history_start]
  · rw [← hr]
    exact Timeline.agrees_history _

/-- With a limit of two the first state is out of reach behind the fourth one. -/
example : ((Timeline.start 0 2).run [.apply 1, .apply 2, .apply 3, .undo, .undo, .undo]).current =
    1 := rfl

end Spreadsheet
