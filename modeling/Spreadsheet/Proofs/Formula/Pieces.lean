import Mathlib.Data.List.Chain
import Spreadsheet.Formula.Substitution
import Spreadsheet.Proofs.Address.Spelling

/-!
# Where a text has references

In a text without dollar signs there is a reference exactly if a digit stands right behind a letter.
Where there is none, writing the numbers of references into the text leaves it as it is
(`substitute_eq_self`); where there is one, the first becomes a parenthesis
(`exists_substitute_eq`).
-/

namespace Spreadsheet

namespace Reference

variable {cs rest : List Char} {s : Spelling}

/-- A reference starts with a dollar sign or a letter. -/
theorem Spelling.head_of_scan? (h : Spelling.scan? cs = some (s, rest)) :
    ∃ c ∈ cs.head?, c = '$' ∨ Column.isLetter c := by
  obtain ⟨rfl, hl, hne, -, -⟩ := Spelling.of_scan? h
  obtain ⟨c, letters, hc⟩ := List.exists_cons_of_ne_nil hne
  unfold Spelling.text
  cases s.colMark with
  | true => exact ⟨'$', rfl, .inl rfl⟩
  | false => exact ⟨c, by simp [hc], .inr (hl c (by simp [hc]))⟩

/-- Without dollar signs, the letters of a reference stand right before its digits. -/
theorem Spelling.scan?_eq_none (hd : '$' ∉ cs)
    (hc : cs.IsChain fun c d => Column.isLetter c → Numeric.isDigit d = false) :
    Spelling.scan? cs = none := by
  refine Option.eq_none_iff_forall_ne_some.mpr fun ⟨s, rest⟩ h => ?_
  obtain ⟨rfl, hl, hlne, hds, hdne⟩ := Spelling.of_scan? h
  have hmarks : s.colMark = false ∧ s.rowMark = false := by
    constructor <;> refine Bool.eq_false_iff.mpr fun hm => hd ?_ <;> simp [Spelling.text, hm]
  have htext : s.text = s.letters ++ s.digits := by simp [Spelling.text, hmarks]
  rw [htext] at hc
  have hadjacent := hc.left_of_append.rel_getLast_head_of_append hlne hdne
    (hl _ (List.getLast_mem hlne))
  rw [hds _ (List.head_mem hdne)] at hadjacent
  cases hadjacent

/-- A letter with a digit behind it starts a reference. -/
theorem Spelling.isSome_scan? {c d : Char} (hc : Column.isLetter c) (hd : Numeric.isDigit d)
    (cs : List Char) : (Spelling.scan? (c :: d :: cs)).isSome := by
  have hdl := not_isLetter_of_isDigit hd
  simp [Spelling.scan?, splitMark_of_ne (ne_mark_of_isLetter hc),
    splitMark_of_ne (ne_mark_of_isDigit hd), hc, hdl, hd]

end Reference

namespace Formula

open Numeric

variable {text : List Char} {view : View} {anchor : Position}

theorem pieces_cons (c : Char) (rest : List Char) :
    pieces (c :: rest) = match Reference.Spelling.scan? (c :: rest) with
      | some (spelling, after) => .reference spelling :: pieces after
      | none => .char c :: pieces rest := by
  rw [pieces]
  split <;> rename_i h <;> rw [h]

/-- Whether a digit never stands right behind a letter. -/
def NoDigitBehindLetter (text : List Char) : Prop :=
  text.IsChain fun c d => Column.isLetter c → isDigit d = false

theorem pieces_eq_map (hd : '$' ∉ text) (hc : NoDigitBehindLetter text) :
    pieces text = text.map .char := by
  induction text with
  | nil => rw [pieces]; rfl
  | cons c text ih =>
    rw [pieces_cons, Reference.Spelling.scan?_eq_none hd hc, List.map_cons,
      ih (fun h => hd (List.mem_cons_of_mem c h)) (List.IsChain.tail hc)]

/-- Where a digit stands right behind a letter there is a reference, and so a first one. -/
theorem exists_pieces_eq (hc : ¬ NoDigitBehindLetter text) :
    ∃ before c after spelling more, text = before ++ c :: after ∧ (c = '$' ∨ Column.isLetter c) ∧
      pieces text = before.map .char ++ .reference spelling :: more := by
  induction text with
  | nil => exact absurd .nil hc
  | cons c text ih =>
    cases hs : Reference.Spelling.scan? (c :: text) with
    | some found =>
      obtain ⟨spelling, after⟩ := found
      obtain ⟨d, hd, hkind⟩ := Reference.Spelling.head_of_scan? hs
      obtain rfl := Option.some.inj hd
      exact ⟨[], c, text, spelling, pieces after, rfl, hkind, by rw [pieces_cons, hs]; rfl⟩
    | none =>
      have hrest : ¬ NoDigitBehindLetter text := by
        refine fun hrest => hc (List.IsChain.cons hrest fun d hd hl => ?_)
        refine Bool.eq_false_iff.mpr fun hdigit => ?_
        obtain ⟨rest, rfl⟩ : ∃ rest, text = d :: rest := List.head?_eq_some_iff.mp hd
        have hsome := Reference.Spelling.isSome_scan? hl hdigit rest
        rw [hs] at hsome
        cases hsome
      obtain ⟨before, d, after, spelling, more, htext, hkind, hpieces⟩ := ih hrest
      refine ⟨c :: before, d, after, spelling, more, by rw [htext, List.cons_append], hkind, ?_⟩
      rw [pieces_cons, hs, hpieces, List.map_cons, List.cons_append]

/-- Where no digit stands behind a letter, nothing is replaced. -/
theorem substitute_eq_self (hd : '$' ∉ text) (hc : NoDigitBehindLetter text) :
    substitute text view anchor = String.ofList text := by
  unfold substitute
  rw [pieces_eq_map hd hc]
  simp [List.flatMap_map, Piece.fill]

/-- The first reference becomes a parenthesis. -/
theorem exists_substitute_eq (hc : ¬ NoDigitBehindLetter text) (view : View) (anchor : Position) :
    ∃ before c after rest, text = before ++ c :: after ∧ (c = '$' ∨ Column.isLetter c) ∧
      (substitute text view anchor).toList = before ++ '(' :: rest := by
  obtain ⟨before, c, after, spelling, more, htext, hkind, hpieces⟩ := exists_pieces_eq hc
  have hchars : (before.map Piece.char).flatMap (·.fill view anchor) = before := by
    simp [List.flatMap_map, Piece.fill]
  obtain ⟨number, hnumber⟩ :
      ∃ number, (Piece.reference spelling).fill view anchor = '(' :: number := ⟨_, rfl⟩
  refine ⟨before, c, after, number ++ more.flatMap (·.fill view anchor), htext, hkind, ?_⟩
  rw [substitute, String.toList_ofList, hpieces, List.flatMap_append, hchars, List.flatMap_cons,
    hnumber, List.cons_append]

end Formula

end Spreadsheet
