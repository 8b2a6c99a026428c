import Spreadsheet.Text.Blank

/-!
# Stretches of a text

What `takeWhile` and `dropWhile` make of a stretch of characters of a kind in front of a text that
stops it, and of a text with a character in it that is not of the kind.
-/

namespace Spreadsheet

variable {α : Type} {p : α → Bool} {c : α} {l rest : List α}

theorem takeWhile_append_cons (hc : p c = false) (before after : List α) :
    (before ++ c :: after).takeWhile p = before.takeWhile p := by
  induction before with
  | nil => simp [hc]
  | cons b before ih => cases hb : p b <;> simp [hb, ih]

theorem dropWhile_append_cons (hc : p c = false) (before after : List α) :
    (before ++ c :: after).dropWhile p = before.dropWhile p ++ c :: after := by
  induction before with
  | nil => simp [hc]
  | cons b before ih => cases hb : p b <;> simp [hb, ih]

/-- Whether a text does not start with a character of a kind. -/
def StopsAt (p : α → Bool) (rest : List α) : Prop := ∀ c ∈ rest.head?, p c = false

theorem stopsAt_iff : StopsAt p rest ↔ rest.head?.all fun c => !p c := by
  cases rest <;> simp [StopsAt]

instance : Decidable (StopsAt p rest) := decidable_of_iff' _ stopsAt_iff

theorem stopsAt_nil (p : α → Bool) : StopsAt p [] := by simp [StopsAt]

theorem stopsAt_cons (hc : p c = false) (rest : List α) : StopsAt p (c :: rest) := by
  intro d hd
  simp only [List.head?_cons, Option.mem_def, Option.some.injEq] at hd
  rwa [← hd]

theorem stopsAt_of_disjoint {q : α → Bool} (h : ∀ c, p c → q c = false) (hl : ∀ c ∈ l, q c) :
    StopsAt p l := by
  intro c hc
  refine Bool.eq_false_iff.mpr fun hp => ?_
  have hq := hl c (List.mem_of_mem_head? hc)
  rw [h c hp] at hq
  cases hq

theorem stopsAt_append (hl : ∀ c ∈ l, p c = false) (hne : l ≠ []) (rest : List α) :
    StopsAt p (l ++ rest) := by
  obtain ⟨c, cs, rfl⟩ := List.exists_cons_of_ne_nil hne
  exact stopsAt_cons (hl c List.mem_cons_self) (cs ++ rest)

theorem takeWhile_append_stopsAt (hl : ∀ c ∈ l, p c) (hr : StopsAt p rest) :
    (l ++ rest).takeWhile p = l := by
  rw [List.takeWhile_append_of_pos hl]
  cases rest with
  | nil => simp
  | cons c rest => rw [List.takeWhile_cons, hr c rfl, if_neg (by decide), List.append_nil]

theorem dropWhile_append_stopsAt (hl : ∀ c ∈ l, p c) (hr : StopsAt p rest) :
    (l ++ rest).dropWhile p = rest := by
  rw [List.dropWhile_append_of_pos hl]
  cases rest with
  | nil => rfl
  | cons c rest => rw [List.dropWhile_cons, hr c rfl, if_neg (by decide)]

/-- A text is cut at the first occurrence of a character. -/
theorem cut_iff {b c : Char} {cs first last : List Char} :
    cs.takeWhile (· ≠ c) = first ∧ cs.dropWhile (· ≠ c) = b :: last ↔
      b = c ∧ cs = first ++ c :: last ∧ c ∉ first := by
  constructor
  · rintro ⟨rfl, hd⟩
    have hb : b = c := by
      have hh := List.head?_dropWhile_not (fun d => decide (d ≠ c)) cs
      rw [hd] at hh
      simpa using hh
    refine ⟨hb, ?_, fun hc => ?_⟩
    · rw [← hb, ← hd, hb, List.takeWhile_append_dropWhile]
    · simpa using List.all_eq_true.mp (List.all_takeWhile (p := fun d => decide (d ≠ c))) c hc
  · rintro ⟨rfl, rfl, hc⟩
    have hchars : ∀ d ∈ first, decide (d ≠ b) = true := by
      intro d hd
      exact decide_eq_true fun he => hc (he ▸ hd)
    have hstop : StopsAt (fun d => decide (d ≠ b)) (b :: last) := stopsAt_cons (by simp) last
    exact ⟨takeWhile_append_stopsAt hchars hstop, dropWhile_append_stopsAt hchars hstop⟩

namespace Text

theorem trim_eq_nil {cs : List Char} (h : ∀ c ∈ cs, isBlank c) : trim cs = [] := by
  have hdrop := dropWhile_append_stopsAt h (stopsAt_nil isBlank)
  rw [List.append_nil] at hdrop
  rw [trim, trimStart, hdrop]
  rfl

/-- Blanks around a text that neither starts nor ends with one are dropped. -/
theorem trim_padded {before cs after : List Char} (hb : ∀ c ∈ before, isBlank c)
    (ha : ∀ c ∈ after, isBlank c) (hstart : StopsAt isBlank cs)
    (hend : StopsAt isBlank cs.reverse) : trim (before ++ cs ++ after) = cs := by
  cases cs with
  | nil =>
    rw [List.append_nil]
    exact trim_eq_nil (List.forall_mem_append.mpr ⟨hb, ha⟩)
  | cons c cs =>
    have hs : StopsAt isBlank (c :: cs ++ after) := stopsAt_cons (hstart c rfl) _
    have ha' : ∀ c ∈ after.reverse, isBlank c := fun c hc => ha c (List.mem_reverse.mp hc)
    rw [trim, trimStart, List.append_assoc, dropWhile_append_stopsAt hb hs, trimEnd,
      List.reverse_append, dropWhile_append_stopsAt ha' hend, List.reverse_reverse]

/-- Blanks around a text without blanks are dropped. -/
theorem trim_padded_of_forall {before cs after : List Char} (hb : ∀ c ∈ before, isBlank c)
    (ha : ∀ c ∈ after, isBlank c) (hcs : ∀ c ∈ cs, isBlank c = false) :
    trim (before ++ cs ++ after) = cs :=
  trim_padded hb ha (fun c hc => hcs c (List.mem_of_mem_head? hc))
    (fun c hc => hcs c (List.mem_reverse.mp (List.mem_of_mem_head? hc)))

/-- Only blanks are left behind a text without the blanks around it. -/
theorem exists_trimStart (cs : List Char) :
    ∃ after, trimStart cs = trim cs ++ after ∧ ∀ c ∈ after, isBlank c := by
  refine ⟨((trimStart cs).reverse.takeWhile isBlank).reverse, ?_, fun c hc => ?_⟩
  · rw [trim, trimEnd, ← List.reverse_append, List.takeWhile_append_dropWhile, List.reverse_reverse]
  · exact List.all_eq_true.mp List.all_takeWhile c (List.mem_reverse.mp hc)

theorem exists_trim (cs : List Char) :
    ∃ before after, cs = before ++ trim cs ++ after ∧ (∀ c ∈ before, isBlank c) ∧
      ∀ c ∈ after, isBlank c := by
  obtain ⟨after, hstart, hafter⟩ := exists_trimStart cs
  refine ⟨cs.takeWhile isBlank, after, ?_, List.all_eq_true.mp List.all_takeWhile, hafter⟩
  rw [List.append_assoc, ← hstart, trimStart, List.takeWhile_append_dropWhile]

end Text

end Spreadsheet
