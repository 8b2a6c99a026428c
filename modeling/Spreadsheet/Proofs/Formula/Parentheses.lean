import Mathlib.Tactic.Tauto
import Spreadsheet.Proofs.Formula.Fault

/-!
# Calls and their parentheses

A call is told from an arithmetic text by its first parenthesis and its last one. Whether the last
one closes the first does not count, although it does for commas, which are looked for at depth
zero. `closing?` finds the parenthesis that closes one in front of a text, and it ends the text just
when what stands between them is balanced (`closing?_eq_length_sub_one_iff`). `Body.ofMatched` is
the body of a text if that is asked for. The two bodies are the same for all but calls whose
arguments are not balanced, and two calls with something between them are such a call
(`body?_eq_matchedBody?_iff`).
-/

namespace Spreadsheet.Formula

variable {text args name : List Char} {k : Int} {n : Nat}

/-! ## Depth -/

/-- The depth of parentheses behind a text. -/
def depth (text : List Char) : Int := text.foldl depthAfter 0

theorem depthAfter_eq (k : Int) (c : Char) : depthAfter k c = k + depthAfter 0 c := by
  unfold depthAfter
  split_ifs <;> omega

theorem foldl_depthAfter (text : List Char) (k : Int) :
    text.foldl depthAfter k = k + depth text := by
  induction text generalizing k with
  | nil => exact (Int.add_zero k).symm
  | cons c text ih =>
    have hcons : depth (c :: text) = depthAfter 0 c + depth text := ih (depthAfter 0 c)
    rw [List.foldl_cons, ih, hcons, depthAfter_eq k c, Int.add_assoc]

theorem depth_cons (c : Char) (text : List Char) :
    depth (c :: text) = depthAfter 0 c + depth text :=
  foldl_depthAfter text (depthAfter 0 c)

theorem depth_append (text rest : List Char) : depth (text ++ rest) = depth text + depth rest := by
  rw [depth, List.foldl_append, foldl_depthAfter rest]
  rfl

/-- As many parentheses are closed as are opened, and no part from the start closes more. -/
structure Balanced (text : List Char) : Prop where
  depth_eq : depth text = 0
  depth_take : ∀ n, 0 ≤ depth (text.take n)

theorem Balanced.not_append_closing (h : Balanced text) (rest : List Char) :
    ¬ Balanced (text ++ ')' :: rest) := by
  intro hb
  have hneg := hb.depth_take (text.length + 1)
  have htake : (text ++ ')' :: rest).take (text.length + 1) = text ++ [')'] := by
    rw [List.take_length_add_append, List.take_succ_cons, List.take_zero]
  rw [htake, depth_append, h.depth_eq] at hneg
  exact absurd hneg (by decide)

/-! ## The parenthesis that closes -/

/-- The number of characters in front of the parenthesis that closes one in front of the text, when
`depth` others are open. -/
def closingFrom? (depth : Int) : List Char → Option Nat
  | [] => none
  | c :: rest =>
    if c = ')' ∧ depth = 0 then some 0
    else (closingFrom? (depthAfter depth c) rest).map (· + 1)

/-- The number of characters in front of the parenthesis that closes one in front of the text. -/
def closing? (text : List Char) : Option Nat := closingFrom? 0 text

theorem closingFrom?_eq_some_iff (hk : 0 ≤ k) :
    closingFrom? k text = some n ↔ text[n]? = some ')' ∧ k + depth (text.take n) = 0 ∧
      ∀ m ≤ n, 0 ≤ k + depth (text.take m) := by
  induction text generalizing k n with
  | nil => simp [closingFrom?]
  | cons c text ih =>
    unfold closingFrom?
    by_cases hc : c = ')' ∧ k = 0
    · -- This one closes, and behind it the depth is below zero.
      obtain ⟨rfl, rfl⟩ := hc
      rw [if_pos ⟨rfl, rfl⟩]
      constructor
      · intro h
        obtain rfl := Option.some.inj h
        refine ⟨rfl, rfl, fun m hm => ?_⟩
        rw [Nat.le_zero.mp hm]
        exact Int.le_refl 0
      · rintro ⟨-, -, hm⟩
        cases n with
        | zero => rfl
        | succ n =>
          have hneg := hm 1 (Nat.le_add_left 1 n)
          rw [List.take_succ_cons, List.take_zero] at hneg
          exact absurd hneg (by decide)
    · rw [if_neg hc]
      have hk' : 0 ≤ depthAfter k c := by
        unfold depthAfter
        split_ifs with hopen hclose
        · omega
        · have := not_and.mp hc hclose
          omega
        · exact hk
      cases n with
      | zero =>
        simp only [Option.map_eq_some_iff, Nat.add_eq_zero_iff, Nat.succ_ne_self, and_false,
          exists_false, false_iff]
        rintro ⟨hfirst, hdepth, -⟩
        refine hc ⟨Option.some.inj hfirst, ?_⟩
        rwa [List.take_zero, depth, List.foldl_nil, Int.add_zero] at hdepth
      | succ n =>
        have hstep : ∀ m, k + depth ((c :: text).take (m + 1)) =
            depthAfter k c + depth (text.take m) := by
          intro m
          rw [List.take_succ_cons, depth_cons, depthAfter_eq k c, Int.add_assoc]
        simp only [Option.map_eq_some_iff, Nat.add_right_cancel_iff, exists_eq_right, ih hk',
          List.getElem?_cons_succ, hstep]
        refine and_congr_right fun _ => and_congr_right fun _ =>
          ⟨fun h m hm => ?_, fun h m hm => ?_⟩
        · cases m with
          | zero => simpa [depth] using hk
          | succ m =>
            rw [hstep]
            exact h m (Nat.le_of_succ_le_succ hm)
        · rw [← hstep]
          exact h (m + 1) (Nat.succ_le_succ hm)

/-- The last character closes a parenthesis in front of a text just when it is a closing one and the
rest is balanced. -/
theorem closing?_eq_length_sub_one_iff : closing? text = some (text.length - 1) ↔
    text.getLast? = some ')' ∧ Balanced text.dropLast := by
  rcases List.eq_nil_or_concat text with rfl | ⟨init, c, rfl⟩
  · simp [closing?, closingFrom?]
  · have htake : ∀ m ≤ init.length, (init ++ [c]).take m = init.take m := fun m hm =>
      List.take_append_of_le_length hm
    rw [List.concat_eq_append, List.length_append, List.length_singleton, Nat.add_sub_cancel,
      List.dropLast_concat, List.getLast?_concat, closing?,
      closingFrom?_eq_some_iff (Int.le_refl 0), List.getElem?_concat_length,
      htake _ (Nat.le_refl _), List.take_length, Int.zero_add]
    refine and_congr_right fun _ => ⟨fun ⟨hd, hm⟩ => ⟨hd, fun m => ?_⟩, fun h => ⟨h.depth_eq, ?_⟩⟩
    · rcases Nat.le_total m init.length with hle | hle
      · rw [← htake m hle, ← Int.zero_add (depth _)]
        exact hm m hle
      · have hall : depth (init.take m) = 0 := by rw [List.take_of_length_le hle, hd]
        exact Int.le_of_eq hall.symm
    · intro m hle
      rw [htake m hle, Int.zero_add]
      exact h.depth_take m

theorem closing?_append_closing_iff :
    closing? (args ++ [')']) = some args.length ↔ Balanced args := by
  have h := @closing?_eq_length_sub_one_iff (args ++ [')'])
  simpa using h

instance : DecidablePred Balanced := fun _ => decidable_of_iff _ closing?_append_closing_iff

/-! ## Bodies -/

/-- The body with the given text, where a call ends with the parenthesis that closes the one behind
its name. -/
def Body.ofMatched (text : List Char) : Body :=
  let name := text.takeWhile isNameChar
  match text.dropWhile isNameChar with
  | '(' :: rest =>
    if name ≠ [] ∧ closing? rest = some (rest.length - 1) ∧ '\n' ∉ rest then
      .call name rest.dropLast
    else .arithmetic text
  | _ => .arithmetic text

/-- The body of a formula, where a call ends with the parenthesis that closes the one behind its
name; `none` for a text that is no formula. -/
def matchedBody? (formula : String) : Option Body :=
  match formula.toList with
  | '=' :: text => some (.ofMatched (Text.upper text))
  | _ => none

namespace Body

theorem ofText_of_opening {rest : List Char} (h : text.dropWhile isNameChar = '(' :: rest) :
    ofText text =
      if text.takeWhile isNameChar ≠ [] ∧ rest.getLast? = some ')' ∧ '\n' ∉ rest then
        .call (text.takeWhile isNameChar) rest.dropLast
      else .arithmetic text := by
  simp only [ofText, h]

theorem ofMatched_of_opening {rest : List Char} (h : text.dropWhile isNameChar = '(' :: rest) :
    ofMatched text =
      if text.takeWhile isNameChar ≠ [] ∧ closing? rest = some (rest.length - 1) ∧ '\n' ∉ rest then
        .call (text.takeWhile isNameChar) rest.dropLast
      else .arithmetic text := by
  simp only [ofMatched, h]

theorem ofText_of_not_opening (h : ∀ rest, text.dropWhile isNameChar ≠ '(' :: rest) :
    ofText text = .arithmetic text := by
  unfold ofText
  split
  · rename_i rest hrest
    exact absurd hrest (h rest)
  · rfl

theorem ofMatched_of_not_opening (h : ∀ rest, text.dropWhile isNameChar ≠ '(' :: rest) :
    ofMatched text = .arithmetic text := by
  unfold ofMatched
  split
  · rename_i rest hrest
    exact absurd hrest (h rest)
  · rfl

theorem ofText_cases (text : List Char) :
    ofText text = .arithmetic text ∨ ∃ name args, ofText text = .call name args := by
  by_cases h : ∃ rest, text.dropWhile isNameChar = '(' :: rest
  · obtain ⟨rest, hrest⟩ := h
    rw [ofText_of_opening hrest]
    split
    · exact .inr ⟨_, _, rfl⟩
    · exact .inl rfl
  · exact .inl (ofText_of_not_opening (not_exists.mp h))

theorem ofMatched_cases (text : List Char) :
    ofMatched text = .arithmetic text ∨ ∃ name args, ofMatched text = .call name args := by
  by_cases h : ∃ rest, text.dropWhile isNameChar = '(' :: rest
  · obtain ⟨rest, hrest⟩ := h
    rw [ofMatched_of_opening hrest]
    split
    · exact .inr ⟨_, _, rfl⟩
    · exact .inl rfl
  · exact .inl (ofMatched_of_not_opening (not_exists.mp h))

theorem ofMatched_eq_call_iff :
    ofMatched text = .call name args ↔ ofText text = .call name args ∧ Balanced args := by
  by_cases h : ∃ rest, text.dropWhile isNameChar = '(' :: rest
  · obtain ⟨rest, hrest⟩ := h
    simp only [ofMatched_of_opening hrest, ofText_of_opening hrest,
      closing?_eq_length_sub_one_iff]
    by_cases hb : Balanced rest.dropLast
    · simp only [hb, and_true]
      constructor
      · intro h
        refine ⟨h, ?_⟩
        split at h
        · obtain ⟨-, rfl⟩ := Body.call.inj h
          exact hb
        · cases h
      · exact And.left
    · rw [if_neg fun h => hb h.2.1.2]
      refine ⟨nofun, fun ⟨h, hargs⟩ => ?_⟩
      split at h
      · obtain ⟨-, rfl⟩ := Body.call.inj h
        exact absurd hargs hb
      · cases h
  · rw [ofMatched_of_not_opening (not_exists.mp h), ofText_of_not_opening (not_exists.mp h)]
    exact ⟨nofun, fun h => nomatch h.1⟩

theorem ofMatched_eq_arithmetic (h : ofText text = .call name args) (hb : ¬ Balanced args) :
    ofMatched text = .arithmetic text := by
  refine (ofMatched_cases text).resolve_right ?_
  rintro ⟨name', args', hm⟩
  obtain ⟨ht, hb'⟩ := ofMatched_eq_call_iff.mp hm
  obtain ⟨-, rfl⟩ := Body.call.inj (h.symm.trans ht)
  exact hb hb'

theorem ofText_eq_ofMatched_iff : ofText text = ofMatched text ↔
    ∀ name args, ofText text = .call name args → Balanced args := by
  constructor
  · intro h name args hc
    exact (ofMatched_eq_call_iff.mp (h.symm.trans hc)).2
  · intro h
    rcases ofText_cases text with ht | ⟨name, args, hc⟩
    · rcases ofMatched_cases text with hm | ⟨name, args, hm⟩
      · exact ht.trans hm.symm
      · exact absurd (ht.symm.trans (ofMatched_eq_call_iff.mp hm).1) nofun
    · exact hc.trans (ofMatched_eq_call_iff.mpr ⟨hc, h name args hc⟩).symm

end Body

theorem body?_cases (formula : String) :
    (∃ text, formula.toList = '=' :: text ∧ body? formula = some (.ofText (Text.upper text)) ∧
      matchedBody? formula = some (.ofMatched (Text.upper text))) ∨
    body? formula = none ∧ matchedBody? formula = none := by
  unfold body? matchedBody?
  by_cases h : ∃ text, formula.toList = '=' :: text
  · obtain ⟨text, htext⟩ := h
    rw [htext]
    exact .inl ⟨text, rfl, rfl, rfl⟩
  · refine .inr ⟨?_, ?_⟩
    all_goals
      split
      · exact absurd ⟨_, by assumption⟩ h
      · rfl

/-- A formula is taken for a call whose last parenthesis closes the one behind its name, or for no
call, unless it is a call with arguments that are not balanced. Those are taken for calls all the
same, among them all that start with one call and end with another. -/
theorem body?_eq_matchedBody?_iff (formula : String) :
    (body? formula = matchedBody? formula ↔
      ∀ name args, body? formula = some (.call name args) → Balanced args) ∧
    (∀ name args, matchedBody? formula = some (.call name args) ↔
      body? formula = some (.call name args) ∧ closing? (args ++ [')']) = some args.length) ∧
    (∀ args, closing? (args ++ [')']) = some args.length ↔ Balanced args) ∧
    ∀ text name first between last, formula.toList = '=' :: text →
      Text.upper text =
        name ++ '(' :: (first ++ ')' :: (between ++ '(' :: (last ++ [')']))) →
      name ≠ [] → (∀ c ∈ name, isNameChar c) → '\n' ∉ Text.upper text → Balanced first →
      body? formula = some (.call name (first ++ ')' :: (between ++ '(' :: last))) ∧
        matchedBody? formula = some (.arithmetic (Text.upper text)) := by
  refine ⟨?_, ?_, fun _ => closing?_append_closing_iff, ?_⟩
  · rcases body?_cases formula with ⟨text, -, hbody, hmatched⟩ | ⟨hbody, hmatched⟩
    · simp only [hbody, hmatched, Option.some.injEq]
      exact Body.ofText_eq_ofMatched_iff
    · rw [hbody, hmatched]
      exact ⟨fun _ => nofun, fun _ => rfl⟩
  · intro name args
    rw [closing?_append_closing_iff]
    rcases body?_cases formula with ⟨text, -, hbody, hmatched⟩ | ⟨hbody, hmatched⟩
    · simp only [hbody, hmatched, Option.some.injEq]
      exact Body.ofMatched_eq_call_iff
    · rw [hbody, hmatched]
      exact ⟨nofun, fun h => nomatch h.1⟩
  · intro text name first between last htext hupper hname hchars hline hfirst
    have hcall : Body.ofText (Text.upper text) =
        .call name (first ++ ')' :: (between ++ '(' :: last)) := by
      refine Body.ofText_eq_call_iff.mpr ⟨?_, hname, hchars, fun hin => hline ?_⟩
      · simpa using hupper
      · rw [hupper]
        simp only [List.mem_append, List.mem_cons] at hin ⊢
        tauto
    unfold body? matchedBody?
    rw [htext]
    exact ⟨congrArg some hcall, congrArg some
      (Body.ofMatched_eq_arithmetic hcall (hfirst.not_append_closing _))⟩

/-- Two sums that are added, and a sum with parentheses of its own. -/
theorem body?_eq_matchedBody?_iff_of_sums :
    body? "=sum(A1,B1)+SUM(C1,D1)" = some (.call "SUM".toList "A1,B1)+SUM(C1,D1".toList) ∧
      matchedBody? "=sum(A1,B1)+SUM(C1,D1)" =
        some (.arithmetic "SUM(A1,B1)+SUM(C1,D1)".toList) ∧
      body? "=SUM((A1),B1)" = matchedBody? "=SUM((A1),B1)" := by
  have hupper : Text.upper "sum(A1,B1)+SUM(C1,D1)".toList = "SUM(A1,B1)+SUM(C1,D1)".toList := by
    decide +kernel
  have hargs : "A1,B1".toList ++ ')' :: ("+SUM".toList ++ '(' :: "C1,D1".toList) =
      "A1,B1)+SUM(C1,D1".toList := by
    decide +kernel
  have hsums := (body?_eq_matchedBody?_iff "=sum(A1,B1)+SUM(C1,D1)").2.2.2
    "sum(A1,B1)+SUM(C1,D1)".toList "SUM".toList "A1,B1".toList "+SUM".toList "C1,D1".toList
    (by decide +kernel) (by decide +kernel) (by decide +kernel)
    (List.all_eq_true.mp (by decide +kernel)) (by decide +kernel) (by decide +kernel)
  rw [hupper, hargs] at hsums
  refine ⟨hsums.1, hsums.2, (body?_eq_matchedBody?_iff _).1.mpr fun name args h => ?_⟩
  have hcall : body? "=SUM((A1),B1)" = some (.call "SUM".toList "(A1),B1".toList) := by
    decide +kernel
  obtain ⟨-, rfl⟩ := Body.call.inj (Option.some.inj (hcall.symm.trans h))
  decide +kernel

/-- The last parenthesis of a call need not be the one that closes the first: of two sums that are
added, the first cell and the last one are summed. -/
theorem not_forall_call_balanced :
    ¬ ∀ (formula : String) (name args : List Char),
      body? formula = some (.call name args) → Balanced args := by
  intro h
  have hcall : body? "=SUM(A1,B1)+SUM(C1,D1)" =
      some (.call "SUM".toList "A1,B1)+SUM(C1,D1".toList) := by
    decide +kernel
  exact absurd (h _ _ _ hcall) (by decide +kernel)

end Spreadsheet.Formula
