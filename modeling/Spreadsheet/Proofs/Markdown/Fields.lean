import Spreadsheet.Markdown

/-!
# Bars and fields

A bar ends a field of a table, unless a backslash stands directly before it. `bars` counts the bars
that do, and `fields` are the pieces of a line between them, one more than there are bars
(`length_fields`). A text in which every bar is escaped, and which does not end with a backslash, is
one field (`IsField`). A line of such texts between bars has them as its fields (`fields_barred`).
Any text is one once it is escaped and has blanks around it (`isField_padded_escape`): the blank
behind it keeps a backslash at its end from the next bar.
-/

namespace Spreadsheet.Markdown

variable {escaped : Bool} {text rest : List Char} {fs : List (List Char)}

/-! ## Bars -/

/-- The number of bars that no backslash stands directly before; `escaped` says whether one stands
before the text. -/
def barsFrom (escaped : Bool) : List Char → Nat
  | [] => 0
  | c :: rest => (if c = '|' ∧ escaped = false then 1 else 0) + barsFrom (c = '\\') rest

/-- The number of bars of a line that no backslash stands directly before. -/
def bars (line : List Char) : Nat := barsFrom false line

/-- Whether a backslash stands directly before what follows a text. -/
def escapedAfter (escaped : Bool) (text : List Char) : Bool :=
  text.foldl (fun _ c => c = '\\') escaped

/-- The pieces of a text between the bars that no backslash stands directly before. -/
def fieldsFrom (escaped : Bool) : List Char → List (List Char)
  | [] => [[]]
  | c :: rest =>
    if c = '|' ∧ escaped = false then [] :: fieldsFrom false rest
    else (fieldsFrom (c = '\\') rest).modifyHead (c :: ·)

/-- The pieces of a line between its bars. -/
def fields (line : List Char) : List (List Char) := fieldsFrom false line

theorem length_fieldsFrom (text : List Char) (escaped : Bool) :
    (fieldsFrom escaped text).length = barsFrom escaped text + 1 := by
  induction text generalizing escaped with
  | nil => rfl
  | cons c text ih =>
    unfold fieldsFrom barsFrom
    split
    · rename_i hc
      obtain ⟨rfl, -⟩ := hc
      rw [List.length_cons, ih, Nat.add_comm 1]
      rfl
    · rw [List.length_modifyHead, ih, Nat.zero_add]

theorem length_fields (line : List Char) : (fields line).length = bars line + 1 :=
  length_fieldsFrom line false

theorem barsFrom_append (text rest : List Char) (escaped : Bool) :
    barsFrom escaped (text ++ rest) =
      barsFrom escaped text + barsFrom (escapedAfter escaped text) rest := by
  induction text generalizing escaped with
  | nil => exact (Nat.zero_add _).symm
  | cons c text ih =>
    rw [List.cons_append, barsFrom, barsFrom, ih, Nat.add_assoc]
    rfl

theorem barsFrom_of_notMem (h : '|' ∉ text) (escaped : Bool) : barsFrom escaped text = 0 := by
  induction text generalizing escaped with
  | nil => rfl
  | cons c text ih =>
    obtain ⟨hc, htext⟩ := not_or.mp (mt List.mem_cons.mpr h)
    rw [barsFrom, if_neg fun h => hc h.1.symm, ih htext]

/-- A text without bars of its own goes on with the first field of what follows. -/
theorem fieldsFrom_append (h : barsFrom escaped text = 0) (rest : List Char) :
    fieldsFrom escaped (text ++ rest) =
      (fieldsFrom (escapedAfter escaped text) rest).modifyHead (text ++ ·) := by
  induction text generalizing escaped with
  | nil =>
    rw [List.nil_append]
    cases hf : fieldsFrom escaped rest <;> simp [escapedAfter, hf]
  | cons c text ih =>
    obtain ⟨hc, htext⟩ := Nat.add_eq_zero_iff.mp h
    have hbar : ¬ (c = '|' ∧ escaped = false) := fun hbar => by
      rw [if_pos hbar] at hc
      cases hc
    rw [List.cons_append, fieldsFrom, if_neg hbar, ih htext, List.modifyHead_modifyHead]
    rfl

/-! ## Lines of fields -/

/-- Whether a text has no end of a line in it. -/
def OnOneLine (text : List Char) : Prop := '\n' ∉ text ∧ '\r' ∉ text

instance : DecidablePred OnOneLine := fun text =>
  inferInstanceAs (Decidable ('\n' ∉ text ∧ '\r' ∉ text))

/-- Whether a text between two bars is one field, and on one line. -/
structure IsField (text : List Char) : Prop where
  bars_eq : bars text = 0
  escapedAfter_eq : escapedAfter false text = false
  onOneLine : OnOneLine text

/-- A line of fields, each with a bar before it and a bar behind it. -/
def barred (fs : List (List Char)) : List Char := '|' :: fs.flatMap (· ++ ['|'])

theorem fields_barred (h : ∀ f ∈ fs, IsField f) : fields (barred fs) = [] :: (fs ++ [[]]) := by
  have hstart : fields (barred fs) = [] :: fieldsFrom false (fs.flatMap (· ++ ['|'])) := rfl
  rw [hstart, List.cons_inj_right]
  induction fs with
  | nil => rfl
  | cons f fs ih =>
    obtain ⟨hf, hfs⟩ := List.forall_mem_cons.mp h
    have hbar : ∀ rest, fieldsFrom false (['|'] ++ rest) = [] :: fieldsFrom false rest :=
      fun _ => rfl
    rw [List.flatMap_cons, List.append_assoc, fieldsFrom_append hf.bars_eq, hf.escapedAfter_eq,
      hbar, ih hfs rfl, List.modifyHead_cons, List.append_nil, List.cons_append]

theorem bars_barred (h : ∀ f ∈ fs, IsField f) : bars (barred fs) = fs.length + 1 := by
  have hlength := length_fields (barred fs)
  rw [fields_barred h, List.length_cons, List.length_append, List.length_singleton] at hlength
  exact (Nat.add_right_cancel hlength).symm

theorem onOneLine_barred (h : ∀ f ∈ fs, IsField f) : OnOneLine (barred fs) := by
  have hmem : ∀ c ∈ barred fs, c = '|' ∨ ∃ f ∈ fs, c ∈ f := by
    intro c hc
    simp only [barred, List.mem_cons, List.mem_flatMap, List.mem_append] at hc
    grind
  refine ⟨fun hc => ?_, fun hc => ?_⟩
  all_goals
    rcases hmem _ hc with hbar | ⟨f, hf, hc⟩
    · exact absurd hbar (by decide)
  · exact (h f hf).onOneLine.1 hc
  · exact (h f hf).onOneLine.2 hc

/-- A text with a blank before it and a blank behind it. -/
def padded (text : List Char) : List Char := ' ' :: (text ++ [' '])

theorem isField_padded (hbars : bars text = 0) (hline : OnOneLine text) :
    IsField (padded text) where
  bars_eq := by
    have hblank : bars (padded text) = barsFrom false (text ++ [' ']) := Nat.zero_add _
    rw [hblank, barsFrom_append, show barsFrom false text = 0 from hbars]
    exact Nat.zero_add _
  escapedAfter_eq := by
    rw [escapedAfter, padded, List.foldl_cons, List.foldl_append]
    rfl
  onOneLine := by simpa [OnOneLine, padded] using hline

/-- Letters and digits are a field. -/
theorem isField_padded_of_forall (h : ∀ c ∈ text, '0' ≤ c ∧ c ≤ 'Z') : IsField (padded text) := by
  have hnot : ∀ c, ¬ ('0' ≤ c ∧ c ≤ 'Z') → c ∉ text := fun c hc hin => hc (h c hin)
  exact isField_padded (barsFrom_of_notMem (hnot _ (by decide)) false)
    ⟨hnot _ (by decide), hnot _ (by decide)⟩

/-! ## Escaped texts -/

/-- A bar is escaped as a backslash and a bar. Of other characters no bar is made, and no end of a
line. -/
theorem escapeChar_cases (c : Char) : escapeChar c = ['\\', '|'] ∨
    ∀ d ∈ escapeChar c, d ≠ '|' ∧ d ≠ '\n' ∧ d ≠ '\r' := by
  unfold escapeChar
  split
  · exact .inl rfl
  · exact .inr (List.forall_mem_singleton.mpr (by decide))
  · exact .inr nofun
  · rename_i hbar hfeed hreturn
    refine .inr fun d hd => ?_
    obtain rfl := List.mem_singleton.mp hd
    exact ⟨hbar, hfeed, hreturn⟩

theorem barsFrom_escapeChar (c : Char) (escaped : Bool) : barsFrom escaped (escapeChar c) = 0 := by
  rcases escapeChar_cases c with h | h
  · rw [h]
    cases escaped <;> rfl
  · exact barsFrom_of_notMem (fun hc => (h _ hc).1 rfl) escaped

theorem bars_escape (text : String) : bars (escape text).toList = 0 := by
  unfold escape bars
  rw [String.toList_ofList]
  -- Whatever stands before a character, none of its own bars counts.
  generalize false = escaped
  induction text.toList generalizing escaped with
  | nil => rfl
  | cons c cs ih => rw [List.flatMap_cons, barsFrom_append, barsFrom_escapeChar, ih]

theorem onOneLine_escapeChar (c : Char) : OnOneLine (escapeChar c) := by
  rcases escapeChar_cases c with h | h
  · rw [h]
    decide
  · exact ⟨fun hfeed => (h _ hfeed).2.1 rfl, fun hreturn => (h _ hreturn).2.2 rfl⟩

theorem onOneLine_escape (text : String) : OnOneLine (escape text).toList := by
  rw [escape, String.toList_ofList]
  simp only [OnOneLine, List.mem_flatMap, not_exists, not_and]
  exact ⟨fun c _ => (onOneLine_escapeChar c).1, fun c _ => (onOneLine_escapeChar c).2⟩

theorem isField_padded_escape (text : String) : IsField (padded (escape text).toList) :=
  isField_padded (bars_escape text) (onOneLine_escape text)

end Spreadsheet.Markdown
