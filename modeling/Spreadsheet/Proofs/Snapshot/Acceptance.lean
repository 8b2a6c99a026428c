import Spreadsheet.Proofs.Numeric.Digits
import Spreadsheet.Proofs.Snapshot.Load
import Spreadsheet.Proofs.Text.Stretch

/-!
# Which snapshots can be loaded

A snapshot can be loaded exactly if its sheet has a row and a column and all it stores lies inside,
blank cells too (`Loadable`). A position can be written by several keys, with blanks, a plus sign or
zeros in front of its numbers (`KeyWrites`), so several cells may be stored for it. They are put in
the order of their keys: the last one decides, and if it is blank then nothing is stored
(`document_accepts_and_stores`).
-/

namespace Spreadsheet

/-! ## Keys as they are written -/

namespace Numeric

/-- Whether a text writes an index: decimal digits, behind a plus sign or none. -/
def WritesIndex (cs : List Char) (n : Nat) : Prop :=
  ∃ sign digits, cs = sign ++ digits ∧ (sign = [] ∨ sign = ['+']) ∧ digits ≠ [] ∧
    (∀ c ∈ digits, isDigit c) ∧ digitsValue digits = n ∧ n ≤ maxIndex

theorem readIndex?_eq_some_iff {cs : List Char} {n : Nat} :
    readIndex? cs = some n ↔ WritesIndex cs n := by
  have hdigits : ∀ {digits : List Char}, (if digits.isEmpty || !digits.all isDigit then none
      else if digitsValue digits ≤ maxIndex then some (digitsValue digits) else none) = some n ↔
        digits ≠ [] ∧ (∀ c ∈ digits, isDigit c) ∧ digitsValue digits = n ∧ n ≤ maxIndex := by
    intro digits
    simp only [Bool.or_eq_true, List.isEmpty_iff, Bool.not_eq_true', List.all_eq_false]
    grind
  unfold readIndex?
  constructor
  · intro h
    split at h
    · rename_i rest
      exact ⟨['+'], rest, rfl, .inr rfl, hdigits.mp h⟩
    · exact ⟨[], cs, rfl, .inl rfl, hdigits.mp h⟩
  · rintro ⟨sign, digits, rfl, rfl | rfl, hd⟩
    · split
      · rename_i rest hplus
        -- A plus sign is no digit, so it is not the first one.
        rw [List.nil_append] at hplus
        exact absurd (hd.2.1 '+' (hplus ▸ List.mem_cons_self)) (by decide)
      · exact hdigits.mpr hd
    · exact hdigits.mpr hd

end Numeric

namespace Snapshot

open Numeric (WritesIndex)
open Document (getElem?_putCells)

variable {s : Snapshot} {d e : Document} {p : Position} {c : Cell}

/-- Whether a text writes an index with blanks around it. -/
def WritesPadded (cs : List Char) (n : Nat) : Prop :=
  ∃ before index after, cs = before ++ index ++ after ∧ (∀ c ∈ before, Text.isBlank c) ∧
    (∀ c ∈ after, Text.isBlank c) ∧ WritesIndex index n

/-- Whether a key writes a position: its row and its column, with a comma between them. -/
def KeyWrites (key : String) (p : Position) : Prop :=
  ∃ row col, key.toList = row ++ ',' :: col ∧ WritesPadded row p.row ∧ WritesPadded col p.col

theorem plus_or_isDigit_of_writesIndex {cs : List Char} {n : Nat} (h : WritesIndex cs n) :
    ∀ c ∈ cs, c = '+' ∨ Numeric.isDigit c := by
  obtain ⟨sign, digits, rfl, hs, -, hd, -, -⟩ := h
  intro c hc
  rcases List.mem_append.mp hc with hc | hc
  · rcases hs with rfl | rfl
    · cases hc
    · exact .inl (List.mem_singleton.mp hc)
  · exact .inr (hd c hc)

theorem isBlank_of_mem_index {cs : List Char} {n : Nat} (h : WritesIndex cs n) :
    ∀ c ∈ cs, Text.isBlank c = false := by
  intro c hc
  rcases plus_or_isDigit_of_writesIndex h c hc with rfl | hd
  · decide
  · exact Numeric.isBlank_of_isDigit hd

theorem readIndex?_trim_eq_some_iff {cs : List Char} {n : Nat} :
    Numeric.readIndex? (Text.trim cs) = some n ↔ WritesPadded cs n := by
  rw [Numeric.readIndex?_eq_some_iff]
  constructor
  · intro h
    obtain ⟨before, after, hcs, hb, ha⟩ := Text.exists_trim cs
    exact ⟨before, Text.trim cs, after, hcs, hb, ha, h⟩
  · rintro ⟨before, index, after, rfl, hb, ha, h⟩
    rwa [Text.trim_padded_of_forall hb ha (isBlank_of_mem_index h)]

theorem comma_notMem_of_writesPadded {cs : List Char} {n : Nat} (h : WritesPadded cs n) :
    ',' ∉ cs := by
  obtain ⟨before, index, after, rfl, hb, ha, h⟩ := h
  intro hc
  rcases List.mem_append.mp hc with hc | hc
  · rcases List.mem_append.mp hc with hc | hc
    · exact absurd (hb _ hc) (by decide)
    · exact absurd (plus_or_isDigit_of_writesIndex h _ hc) (by decide)
  · exact absurd (ha _ hc) (by decide)

theorem position?_eq_some_iff {key : String} : position? key = some p ↔ KeyWrites key p := by
  constructor
  · intro h
    unfold position? at h
    dsimp only at h
    split at h
    · cases h
    · rename_i b col hd
      obtain ⟨rfl, hkey, -⟩ := cut_iff.mp ⟨rfl, hd⟩
      split at h
      · rename_i row' col' hr hc
        cases h
        exact ⟨_, col, hkey, readIndex?_trim_eq_some_iff.mp hr, readIndex?_trim_eq_some_iff.mp hc⟩
      · cases h
  · rintro ⟨row, col, hkey, hr, hc⟩
    obtain ⟨ht, hd⟩ := cut_iff.mpr ⟨rfl, hkey, comma_notMem_of_writesPadded hr⟩
    simp only [position?, ht, hd, readIndex?_trim_eq_some_iff.mpr hr,
      readIndex?_trim_eq_some_iff.mpr hc]

/-! ## What is accepted -/

/-- Whether all that a snapshot stores lies in its sheet, and there is a sheet. -/
structure Loadable (s : Snapshot) : Prop where
  rows : 1 ≤ s.rows
  cols : 1 ≤ s.cols
  cells : ∀ {key : String} {c : Cell}, s.cells[key]? = some c →
    ∃ p, KeyWrites key p ∧ p.row < s.rows ∧ p.col < s.cols
  widths : ∀ {col : Nat} {x : Float}, s.widths[col]? = some x → col < s.cols
  heights : ∀ {row : Nat} {x : Float}, s.heights[row]? = some x → row < s.rows

/-- The stored cells by position, in the order of their keys. -/
def entries (s : Snapshot) : List (Position × Cell) := byPosition s.cells.toList

theorem empty_eq (hr : 1 ≤ s.rows) (hc : 1 ≤ s.cols) :
    Document.empty s.rows s.cols = ⟨s.rows, s.cols, ∅, ∅, ∅⟩ := by
  rw [Document.empty, Nat.max_eq_left hr, Nat.max_eq_left hc]

theorem document_eq_ok_iff :
    s.document = .ok d ↔ s.Loadable ∧
      d = ⟨s.rows, s.cols, Document.putCells ∅ s.entries, s.widths, s.heights⟩ := by
  rw [document_eq_ok, ← Nat.one_le_iff_ne_zero, ← Nat.one_le_iff_ne_zero]
  constructor
  · rintro ⟨hr, hc, d₁, d₂, h₁, h₂, h₃⟩
    rw [empty_eq hr hc] at h₁
    obtain ⟨hcells, rfl⟩ := foldlM_loadCell_eq_ok.mp h₁
    obtain ⟨hwidths, rfl⟩ := (loadSizes_empty_eq_ok rfl).mp h₂
    obtain ⟨hheights, rfl⟩ := (loadSizes_empty_eq_ok rfl).mp h₃
    refine ⟨⟨hr, hc, fun {key c} hk => ?_, hwidths, hheights⟩, rfl⟩
    obtain ⟨p, hp, hi⟩ :=
      hcells (key, c) (Std.ExtTreeMap.mem_toList_iff_getElem?_eq_some.mpr hk)
    exact ⟨p, position?_eq_some_iff.mp hp, Document.inside_iff.mp hi⟩
  · rintro ⟨h, rfl⟩
    rw [empty_eq h.rows h.cols]
    refine ⟨h.rows, h.cols, ⟨s.rows, s.cols, Document.putCells ∅ s.entries, ∅, ∅⟩,
      ⟨s.rows, s.cols, Document.putCells ∅ s.entries, s.widths, ∅⟩,
      foldlM_loadCell_eq_ok.mpr ⟨fun x hx => ?_, rfl⟩,
      (loadSizes_empty_eq_ok rfl).mpr ⟨h.widths, rfl⟩,
      (loadSizes_empty_eq_ok rfl).mpr ⟨h.heights, rfl⟩⟩
    obtain ⟨p, hp, hi⟩ := h.cells (Std.ExtTreeMap.mem_toList_iff_getElem?_eq_some.mp hx)
    exact ⟨p, position?_eq_some_iff.mpr hp, Document.inside_iff.mpr hi⟩

/-! ## What is stored -/

theorem mem_entries : (p, c) ∈ s.entries ↔ ∃ key, s.cells[key]? = some c ∧ KeyWrites key p := by
  simp only [entries, byPosition, List.mem_filterMap, Prod.exists, Option.map_eq_some_iff,
    Prod.mk.injEq, Std.ExtTreeMap.mem_toList_iff_getElem?_eq_some, position?_eq_some_iff]
  constructor
  · rintro ⟨key, c, hc, p, hp, rfl, rfl⟩
    exact ⟨key, hc, hp⟩
  · rintro ⟨key, hc, hp⟩
    exact ⟨key, c, hc, p, hp, rfl, rfl⟩

theorem lastOf_byPosition_cons (e : String × Cell) (l : List (String × Cell)) :
    lastOf p (byPosition (e :: l)) =
      (lastOf p (byPosition l)).or (if position? e.1 = some p then some e.2 else none) := by
  simp only [byPosition, List.filterMap_cons]
  cases hq : position? e.1 with
  | none => simp
  | some q => simp [lastOf]

/-- Of cells in the order of their keys, the last one for a position has the last key. -/
theorem exists_key_of_lastOf {l : List (String × Cell)} (hl : l.Pairwise fun x y => x.1 < y.1)
    (h : lastOf p (byPosition l) = some c) :
    ∃ key, (key, c) ∈ l ∧ position? key = some p ∧
      ∀ x ∈ l, position? x.1 = some p → x.1 ≤ key := by
  induction l with
  | nil => cases h
  | cons e l ih =>
    rw [List.pairwise_cons] at hl
    rw [lastOf_byPosition_cons, Option.or_eq_some_iff] at h
    rcases h with h | ⟨hnone, h⟩
    · obtain ⟨key, hk, hp, hmax⟩ := ih hl.2 h
      refine ⟨key, List.mem_cons_of_mem e hk, hp, fun x hx hxp => ?_⟩
      rcases List.mem_cons.mp hx with rfl | hx
      · exact le_of_lt (hl.1 _ hk)
      · exact hmax x hx hxp
    · split at h
      · rename_i hp
        obtain rfl := Option.some.inj h
        refine ⟨e.1, List.mem_cons_self, hp, fun x hx hxp => ?_⟩
        rcases List.mem_cons.mp hx with rfl | hx
        · exact le_refl _
        · -- No later cell is for the position.
          refine absurd (List.mem_filterMap.mpr ⟨x, hx, ?_⟩) (lastOf_eq_none_iff.mp hnone x.2)
          rw [hxp]
          rfl
      · cases h

theorem pairwise_keys (s : Snapshot) : s.cells.toList.Pairwise fun x y => x.1 < y.1 :=
  Std.ExtTreeMap.ordered_keys_toList.imp fun h => compare_lt_iff_lt.mp h

/-- Whether a key is the last one of a snapshot, in the order of texts, that writes a position. -/
def IsLastKey (s : Snapshot) (key : String) (p : Position) : Prop :=
  KeyWrites key p ∧ ∀ key' c', s.cells[key']? = some c' → KeyWrites key' p → key' ≤ key

theorem lastOf_entries_eq_some_iff :
    lastOf p s.entries = some c ↔ ∃ key, s.cells[key]? = some c ∧ s.IsLastKey key p := by
  have hlast : ∀ {c}, lastOf p s.entries = some c →
      ∃ key, s.cells[key]? = some c ∧ s.IsLastKey key p := by
    intro c h
    obtain ⟨key, hk, hp, hmax⟩ := exists_key_of_lastOf s.pairwise_keys h
    refine ⟨key, Std.ExtTreeMap.mem_toList_iff_getElem?_eq_some.mp hk,
      position?_eq_some_iff.mp hp, fun key' c' hc' hp' => ?_⟩
    exact hmax (key', c') (Std.ExtTreeMap.mem_toList_iff_getElem?_eq_some.mpr hc')
      (position?_eq_some_iff.mpr hp')
  refine ⟨hlast, ?_⟩
  -- Two last keys are one, and a key stores one cell.
  rintro ⟨key, hc, hp, hmax⟩
  cases h : lastOf p s.entries with
  | none => exact absurd (mem_entries.mpr ⟨key, hc, hp⟩) (lastOf_eq_none_iff.mp h c)
  | some c' =>
    obtain ⟨key', hc', hp', hmax'⟩ := hlast h
    obtain rfl : key = key' := le_antisymm (hmax' key c hc hp) (hmax key' c' hc' hp')
    rw [← hc', hc]

/-- A snapshot is loaded exactly if it has a sheet and all it stores lies inside. The document has
the size and the sizes that are stored, and holds at a position the cell of the last key that writes
it, or nothing if that cell is blank or if there is none. -/
theorem document_accepts_and_stores (s : Snapshot) :
    ((∃ d, s.document = .ok d) ↔ s.Loadable) ∧
    ∀ d, s.document = .ok d → d.rows = s.rows ∧ d.cols = s.cols ∧ d.widths = s.widths ∧
      d.heights = s.heights ∧ ∀ p c, d.cells[p]? = some c ↔
        c.isBlank = false ∧ ∃ key, s.cells[key]? = some c ∧ s.IsLastKey key p := by
  constructor
  · constructor
    · rintro ⟨d, h⟩
      exact (document_eq_ok_iff.mp h).1
    · intro h
      exact ⟨_, document_eq_ok_iff.mpr ⟨h, rfl⟩⟩
  · intro d h
    obtain ⟨-, rfl⟩ := document_eq_ok_iff.mp h
    refine ⟨rfl, rfl, rfl, rfl, fun p c => ?_⟩
    rw [← lastOf_entries_eq_some_iff, getElem?_putCells]
    cases lastOf p s.entries with
    | none => simp
    | some c' =>
      by_cases hb : c'.isBlank
      · simp only [hb, if_true, reduceCtorEq, Option.some.injEq, false_iff, not_and]
        rintro hc rfl
        rw [hb] at hc
        cases hc
      · simp only [hb, if_false, Option.some.injEq, Bool.false_eq_true]
        constructor
        · rintro rfl
          exact ⟨by simpa using hb, rfl⟩
        · exact fun h => h.2

/-- Cells under three keys for the first position and two for the last one, of which the last is
blank. -/
def collidingCells : List (String × Cell) :=
  [("0,0", { value := .text "last" }), (" 0 ,0", { value := .text "spaced" }),
    ("+0,00", { value := .text "signed" }), ("1,2", {}), ("1, 2", { value := .text "hidden" })]

def collisions : Snapshot where
  cells := Std.ExtTreeMap.ofList collidingCells
  widths := (∅ : Sizes).insert 2 80
  rows := 2
  cols := 3

theorem document_accepts_and_stores_of_collisions :
    ∃ d, collisions.document = .ok d ∧
      d.cells[(⟨0, 0⟩ : Position)]? = some { value := .text "last" } ∧
      d.cells[(⟨1, 2⟩ : Position)]? = none := by
  have hmem : ∀ {key c}, collisions.cells[key]? = some c → (key, c) ∈ collidingCells :=
    fun h => mem_of_getElem?_ofList h
  have hkeys : ∀ x ∈ collidingCells, ∃ p ∈ position? x.1, p.row < 2 ∧ p.col < 3 := by
    decide
  have hload : collisions.Loadable := by
    refine ⟨by decide, by decide, fun hc => ?_, fun {col x} hx => ?_, fun hx => by cases hx⟩
    · obtain ⟨p, hp, hi⟩ := hkeys _ (hmem hc)
      exact ⟨p, position?_eq_some_iff.mp hp, hi⟩
    · obtain ⟨rfl, -⟩ | ⟨-, hx⟩ := getElem?_insert_eq_some_iff.mp hx
      · decide
      · cases hx
  obtain ⟨d, hd⟩ := (document_accepts_and_stores collisions).1.mpr hload
  obtain ⟨-, -, -, -, hstored⟩ := (document_accepts_and_stores collisions).2 d hd
  have hfirst : ∀ x ∈ collidingCells, position? x.1 = some ⟨0, 0⟩ → x.1 ≤ "0,0" := by decide
  have hlast : ∀ x ∈ collidingCells, position? x.1 = some ⟨1, 2⟩ → "1,2" ≤ x.1 → x.2.isBlank := by
    decide
  refine ⟨d, hd, (hstored _ _).mpr ⟨by decide, "0,0", rfl, ?_, fun key c hc hp => ?_⟩, ?_⟩
  · exact position?_eq_some_iff.mp (by decide)
  · exact hfirst _ (hmem hc) (position?_eq_some_iff.mpr hp)
  · refine Option.eq_none_iff_forall_ne_some.mpr fun c hc => ?_
    obtain ⟨hb, key, hk, hp, hmax⟩ := (hstored _ _).mp hc
    have hle : "1,2" ≤ key := hmax "1,2" {} rfl (position?_eq_some_iff.mp (by decide))
    rw [hlast _ (hmem hk) (position?_eq_some_iff.mpr hp) hle] at hb
    cases hb

end Snapshot

end Spreadsheet
