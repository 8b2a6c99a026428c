import Mathlib.Data.List.Basic
import Mathlib.Data.List.TakeWhile
import Spreadsheet.Proofs.Formula.Anchor
import Spreadsheet.Proofs.Formula.Reads
import Spreadsheet.Proofs.Text.Stretch

/-!
# What is wrong with a formula

`Faulty formula e` says what is wrong with a formula by its text alone: it calls a function that
does not exist, it calls an aggregate with a range that is none, or it calls a text function with
anything but a single reference. On a sheet with a row and a column, a formula fails with an error
exactly if it has that fault (`evaluate?_eq_error_iff`). So whether it fails, and how, does not
depend on what the cells hold, and that a reference or a pattern is invalid is never said of a
formula (`fails_iff_faulty`).
-/

namespace Spreadsheet.Formula

/-! ## Calls -/

theorem Body.ofText_eq_call_iff {text name args : List Char} :
    Body.ofText text = .call name args ↔
      text = name ++ '(' :: (args ++ [')']) ∧ name ≠ [] ∧ (∀ c ∈ name, isNameChar c) ∧
        '\n' ∉ args := by
  constructor
  · intro h
    unfold Body.ofText at h
    simp only at h
    split at h
    · rename_i rest hrest
      split at h
      · rename_i hcall
        obtain ⟨hname, hlast, hline⟩ := hcall
        simp only [Body.call.injEq] at h
        obtain ⟨rfl, rfl⟩ := h
        have hargs : rest.dropLast ++ [')'] = rest := List.dropLast_append_getLast? _ hlast
        refine ⟨?_, hname, fun c hc => List.mem_takeWhile_imp hc, fun hc => hline ?_⟩
        · rw [hargs, ← hrest, List.takeWhile_append_dropWhile]
        · exact List.dropLast_subset rest hc
      · cases h
    · cases h
  · rintro ⟨rfl, hname, hchars, hline⟩
    have hstop : StopsAt isNameChar ('(' :: (args ++ [')'])) := stopsAt_cons (by decide) _
    unfold Body.ofText
    simp only [takeWhile_append_stopsAt hchars hstop, dropWhile_append_stopsAt hchars hstop]
    rw [if_pos ⟨hname, by simp, by simpa using hline⟩, List.dropLast_concat]

/-- Whether a formula is a call: in capitals, it is a name, and an argument text on one line in the
parentheses behind it, of which the second ends the formula. -/
structure IsCall (formula name : String) (args : List Char) : Prop where
  text : ∃ text, formula.toList = '=' :: text ∧
    Text.upper text = name.toList ++ '(' :: (args ++ [')'])
  name_ne : name ≠ ""
  nameChars : ∀ c ∈ name.toList, isNameChar c
  oneLine : '\n' ∉ args

theorem body?_eq_call_iff {formula name : String} {args : List Char} :
    body? formula = some (.call name.toList args) ↔ IsCall formula name args := by
  have hne : name ≠ "" ↔ name.toList ≠ [] := by simp
  unfold body?
  constructor
  · intro h
    split at h
    · rename_i text ht
      obtain ⟨hu, hn, hchars, hline⟩ := Body.ofText_eq_call_iff.mp (Option.some.inj h)
      exact ⟨⟨text, ht, hu⟩, hne.mpr hn, hchars, hline⟩
    · cases h
  · rintro ⟨⟨text, ht, hu⟩, hn, hchars, hline⟩
    rw [ht]
    exact congrArg some (Body.ofText_eq_call_iff.mpr ⟨hu, hne.mp hn, hchars, hline⟩)

theorem evaluate?_of_isCall {formula name : String} {args : List Char}
    (h : IsCall formula name args) (view : View) (anchor : Position) :
    evaluate? formula view anchor = call name.toList (parameters args) view anchor := by
  unfold evaluate?
  rw [body?_eq_call_iff.mpr h]

/-! ## Ranges -/

/-- Whether a text is a reference and nothing else. -/
def IsReference (token : List Char) : Prop := ∃ r, Reference.parse? token = some r

instance (token : List Char) : Decidable (IsReference token) :=
  decidable_of_iff _ Option.isSome_iff_exists

namespace IsReference

variable {token : List Char}

theorem mem_alphabet (h : IsReference token) : ∀ c ∈ token, c ∈ Reference.alphabet := by
  obtain ⟨r, hr⟩ := h
  exact (Reference.of_parse? hr).2

theorem ne_nil (h : IsReference token) : token ≠ [] := by
  obtain ⟨r, hr⟩ := h
  exact (Reference.of_parse? hr).1

theorem not_isBlank (h : IsReference token) : ∀ c ∈ token, Text.isBlank c = false := by
  have ha : Reference.alphabet.all fun c => !Text.isBlank c := by decide
  intro c hc
  simpa using List.all_eq_true.mp ha c (h.mem_alphabet c hc)

theorem colon_notMem (h : IsReference token) : ':' ∉ token := by
  obtain ⟨r, hr⟩ := h
  exact Reference.colon_notMem_of_parse? hr

/-- Blanks around a reference are dropped. -/
theorem trim_padded {before after : List Char} (h : IsReference token)
    (hb : ∀ c ∈ before, Text.isBlank c) (ha : ∀ c ∈ after, Text.isBlank c) :
    Text.trim (before ++ token ++ after) = token :=
  Text.trim_padded_of_forall hb ha h.not_isBlank

end IsReference

/-- Whether a text is two references, blanks around them left aside, around its first colon. -/
def IsRange (token : List Char) : Prop :=
  ∃ first last, token = first ++ ':' :: last ∧ ':' ∉ first ∧
    IsReference (Text.trim first) ∧ IsReference (Text.trim last)

/-- Whether a text has the colon of a range but is none. -/
def IsBadRange (token : List Char) : Prop := ':' ∈ token ∧ ¬ IsRange token

theorem splitRange?_eq_some_iff {token first last : List Char} :
    splitRange? token = some (first, last) ↔ token = first ++ ':' :: last ∧ ':' ∉ first := by
  have hcut : splitRange? token = some (first, last) ↔
      ∃ c, token.takeWhile (· ≠ ':') = first ∧ token.dropWhile (· ≠ ':') = c :: last := by
    unfold splitRange?
    cases token.dropWhile (· ≠ ':') <;> simp
  simp only [hcut, cut_iff, exists_eq_left]

theorem isSome_rangeCorners?_iff (token : List Char) (anchor : Position) :
    (rangeCorners? token anchor).isSome ↔ IsRange token := by
  simp only [rangeCorners?_eq, Option.isSome_iff_exists, Option.bind_eq_some_iff,
    Option.map_eq_some_iff]
  constructor
  · rintro ⟨_, ⟨first, last⟩, hs, r, hr, r', hr', -⟩
    obtain ⟨ht, hf⟩ := splitRange?_eq_some_iff.mp hs
    exact ⟨first, last, ht, hf, ⟨r, hr⟩, r', hr'⟩
  · rintro ⟨first, last, ht, hf, ⟨r, hr⟩, r', hr'⟩
    exact ⟨_, (first, last), splitRange?_eq_some_iff.mpr ⟨ht, hf⟩, r, hr, r', hr', rfl⟩

instance (token : List Char) : Decidable (IsRange token) :=
  decidable_of_iff _ (isSome_rangeCorners?_iff token .origin)

theorem IsRange.colon_mem {token : List Char} (h : IsRange token) : ':' ∈ token := by
  obtain ⟨first, last, rfl, -⟩ := h
  simp

theorem rangeRectangle_eq_error_iff {token : List Char} {anchor : Position} {rows cols : Nat}
    {e : Error} : rangeRectangle token anchor rows cols = .error e ↔
      ¬ IsRange token ∧ e = .invalidRange (String.ofList token) := by
  rw [← isSome_rangeCorners?_iff token anchor]
  unfold rangeRectangle
  cases rangeCorners? token anchor <;> simp [eq_comm]

/-! ## Parameters -/

section Steps

variable {α β ε : Type} {f : α → Except ε β} {e : ε} {l : List α}

theorem mapM_cons_eq_error_iff {x : α} :
    (x :: l).mapM f = .error e ↔
      f x = .error e ∨ (∃ b, f x = .ok b) ∧ l.mapM f = .error e := by
  rw [List.mapM_cons]
  cases f x <;> cases l.mapM f <;> simp [bind, Except.bind, pure, Except.pure]

/-- Steps along a list fail where the first of them fails. -/
theorem mapM_eq_error_iff :
    l.mapM f = .error e ↔
      ∃ before x after, l = before ++ x :: after ∧ (∀ y ∈ before, ∃ b, f y = .ok b) ∧
        f x = .error e := by
  induction l with
  | nil => simp [pure, Except.pure]
  | cons x l ih =>
    rw [mapM_cons_eq_error_iff, ih]
    constructor
    · rintro (hx | ⟨hx, before, z, after, rfl, hb, hz⟩)
      · exact ⟨[], x, l, rfl, by simp, hx⟩
      · exact ⟨x :: before, z, after, rfl, List.forall_mem_cons.mpr ⟨hx, hb⟩, hz⟩
    · rintro ⟨_ | ⟨y, before⟩, z, after, hl, hb, hz⟩
      · obtain ⟨rfl, rfl⟩ := List.cons.inj hl
        exact .inl hz
      · obtain ⟨rfl, rfl⟩ := List.cons.inj hl
        obtain ⟨hx, hb⟩ := List.forall_mem_cons.mp hb
        exact .inr ⟨hx, before, z, after, rfl, hb, hz⟩

/-- Of two that fail in the same cases, with the same errors, all but the results is the same. -/
theorem map_unit_eq {x y : Except ε β} (h : ∀ e, x = .error e ↔ y = .error e) :
    x.map (fun _ => ()) = y.map (fun _ => ()) := by
  cases x with
  | error e => rw [(h e).mp rfl]
  | ok a =>
    cases y with
    | error e => cases (h e).mpr rfl
    | ok b => rfl

end Steps

/-- The first parameter with the colon of a range that is none. -/
def FirstBadRange (parameters : List (List Char)) (token : List Char) : Prop :=
  ∃ before after, parameters = before ++ token :: after ∧ (∀ p ∈ before, ¬ IsBadRange p) ∧
    IsBadRange token

/-- In a view without rows or columns a range denotes nothing, however it is written. -/
theorem not_empty_of_parameterValues_eq_error {view : View} {anchor : Position} {e : Error}
    {parameter : List Char} (h : parameterValues view anchor parameter = .error e) :
    ¬ (view.rows = 0 ∨ view.cols = 0) := by
  intro hv
  unfold parameterValues at h
  split at h
  · rename_i hc
    rw [rangeBlock, if_pos hc, if_pos hv] at h
    cases h
  · split at h <;> cases h

section View

variable {view : View} (hv : ¬ (view.rows = 0 ∨ view.cols = 0)) {anchor : Position} {e : Error}
include hv

theorem parameterValues_eq_error_iff {parameter : List Char} :
    parameterValues view anchor parameter = .error e ↔
      IsBadRange parameter ∧ e = .invalidRange (String.ofList parameter) := by
  unfold parameterValues IsBadRange
  by_cases hc : ':' ∈ parameter
  · have hmap : (rangeBlock parameter view anchor).map List.flatten = .error e ↔
        rangeRectangle parameter anchor view.rows view.cols = .error e := by
      unfold rangeBlock
      rw [if_pos hc, if_neg hv]
      cases rangeRectangle parameter anchor view.rows view.cols <;> simp [Except.map]
    rw [if_pos hc, hmap, rangeRectangle_eq_error_iff]
    simp [hc]
  · rw [if_neg hc]
    split <;> simp [hc]

theorem exists_parameterValues_eq_ok_iff {parameter : List Char} :
    (∃ values, parameterValues view anchor parameter = .ok values) ↔ ¬ IsBadRange parameter := by
  constructor
  · rintro ⟨values, h⟩ hb
    have he : parameterValues view anchor parameter =
        .error (.invalidRange (String.ofList parameter)) :=
      (parameterValues_eq_error_iff hv).mpr ⟨hb, rfl⟩
    cases h.symm.trans he
  · intro hb
    cases h : parameterValues view anchor parameter with
    | ok values => exact ⟨values, rfl⟩
    | error e => exact absurd ((parameterValues_eq_error_iff hv).mp h).1 hb

theorem parametersValues_eq_error_iff {parameters : List (List Char)} :
    parametersValues parameters view anchor = .error e ↔
      ∃ token, FirstBadRange parameters token ∧ e = .invalidRange (String.ofList token) := by
  have hmap : parametersValues parameters view anchor = .error e ↔
      parameters.mapM (parameterValues view anchor) = .error e := by
    unfold parametersValues
    cases parameters.mapM (parameterValues view anchor) <;> simp [Except.map]
  simp only [hmap, mapM_eq_error_iff, exists_parameterValues_eq_ok_iff hv,
    parameterValues_eq_error_iff hv]
  constructor
  · rintro ⟨before, token, after, hp, hb, ht, he⟩
    exact ⟨token, ⟨before, after, hp, hb, ht⟩, he⟩
  · rintro ⟨token, ⟨before, after, hp, hb, ht⟩, he⟩
    exact ⟨before, token, after, hp, hb, ht, he⟩

end View

/-! ## Built-in functions -/

/-- The names of the functions that make a number of the values of all their parameters. -/
def aggregateNames : List String := ["SUM", "AVERAGE", "MAX", "MIN", "COUNT"]

/-- The names of the functions that change the text of one cell. -/
def textNames : List String := ["TRIM", "UPPER", "LOWER"]

/-- What is done with the parameters of a function is known from its name. -/
theorem action_cases (name : String) :
    (name ∈ aggregateNames ∧ name ∉ textNames ∧
        ∃ f, (Builtin.named? name).map Builtin.action = some (.aggregate f)) ∨
      (name ∉ aggregateNames ∧ name ∈ textNames ∧
        ∃ f, (Builtin.named? name).map Builtin.action = some (.text f)) ∨
      (name ∉ aggregateNames ∧ name ∉ textNames ∧
        (Builtin.named? name).map Builtin.action = none) := by
  by_cases ha : name ∈ aggregateNames
  · have hn : name ∉ textNames := by
      simp only [aggregateNames, List.mem_cons, List.not_mem_nil, or_false] at ha
      rcases ha with rfl | rfl | rfl | rfl | rfl <;> decide
    refine .inl ⟨ha, hn, ?_⟩
    simp only [aggregateNames, List.mem_cons, List.not_mem_nil, or_false] at ha
    rcases ha with rfl | rfl | rfl | rfl | rfl <;> exact ⟨_, rfl⟩
  · by_cases ht : name ∈ textNames
    · refine .inr (.inl ⟨ha, ht, ?_⟩)
      simp only [textNames, List.mem_cons, List.not_mem_nil, or_false] at ht
      rcases ht with rfl | rfl | rfl <;> exact ⟨_, rfl⟩
    · refine .inr (.inr ⟨ha, ht, ?_⟩)
      simp only [aggregateNames, textNames, List.mem_cons, List.not_mem_nil, or_false,
        not_or] at ha ht
      simp only [Builtin.named?, Option.map_eq_none_iff, List.find?_eq_none, Builtin.all,
        List.mem_cons, List.not_mem_nil, or_false, decide_eq_true_eq, forall_eq_or_imp, forall_eq]
      grind

/-! ## Faults -/

/-- What is wrong with a formula. -/
inductive Faulty (formula : String) : Error → Prop where
  | unknownFunction {name : String} {args : List Char} (call : IsCall formula name args)
      (aggregate : name ∉ aggregateNames) (text : name ∉ textNames) :
      Faulty formula (.unknownFunction name)
  | invalidRange {name : String} {args token : List Char} (call : IsCall formula name args)
      (aggregate : name ∈ aggregateNames) (first : FirstBadRange (parameters args) token) :
      Faulty formula (.invalidRange (String.ofList token))
  | requiresCellReference {name : String} {args : List Char} (call : IsCall formula name args)
      (text : name ∈ textNames)
      (single : ¬ ∃ token, parameters args = [token] ∧ IsReference token) :
      Faulty formula (.requiresCellReference name)

section View

variable {view : View} (hv : ¬ (view.rows = 0 ∨ view.cols = 0)) {anchor : Position} {e : Error}

include hv in
theorem callAggregate_eq_error_iff {f : List Value → Float} {parameters : List (List Char)} :
    callAggregate f parameters view anchor = .error e ↔
      ∃ token, FirstBadRange parameters token ∧ e = .invalidRange (String.ofList token) := by
  rw [← @parametersValues_eq_error_iff view hv anchor e]
  unfold callAggregate
  cases parametersValues parameters view anchor <;> simp [Except.map]

theorem callText_eq_error_iff {name : List Char} {f : List Char → List Char}
    {parameters : List (List Char)} :
    callText name f parameters view anchor = .error e ↔
      (¬ ∃ token, parameters = [token] ∧ IsReference token) ∧
        e = .requiresCellReference (String.ofList name) := by
  by_cases hs : ∃ token, parameters = [token] ∧ IsReference token
  · obtain ⟨token, rfl, r, hr⟩ := hs
    have hok : ∃ value, callText name f [token] view anchor = .ok value := by
      simp only [callText, Reference.parseAt?, hr, Option.map_some]
      split <;> exact ⟨_, rfl⟩
    obtain ⟨value, hvalue⟩ := hok
    rw [hvalue]
    exact ⟨fun h => (by cases h), fun h => absurd ⟨token, rfl, r, hr⟩ h.1⟩
  · have herror : callText name f parameters view anchor =
        .error (.requiresCellReference (String.ofList name)) := by
      unfold callText
      split
      · rename_i token
        have hn : Reference.parse? token = none :=
          Option.eq_none_iff_forall_ne_some.mpr fun r hr => hs ⟨token, rfl, r, hr⟩
        simp only [Reference.parseAt?, hn, Option.map_none]
      · rfl
    rw [herror, Except.error.injEq]
    exact ⟨fun h => ⟨hs, h.symm⟩, fun h => h.2.symm⟩

include hv in
/-- A formula on a sheet with a row and a column fails with an error if and only if it has the
fault. -/
theorem evaluate?_eq_error_iff {formula : String} :
    evaluate? formula view anchor = .error e ↔ Faulty formula e := by
  constructor
  · intro h
    unfold evaluate? at h
    split at h
    · cases h
    · cases h
    · rename_i name args hbody
      rw [← String.toList_ofList (l := name), body?_eq_call_iff] at hbody
      unfold call at h
      rcases action_cases (String.ofList name) with ⟨ha, -, f, hf⟩ | ⟨-, ht, f, hf⟩ | ⟨ha, ht, hn⟩
      · rw [hf] at h
        obtain ⟨token, hfirst, rfl⟩ := (callAggregate_eq_error_iff hv).mp h
        exact .invalidRange hbody ha hfirst
      · rw [hf] at h
        obtain ⟨hsingle, rfl⟩ := callText_eq_error_iff.mp h
        exact .requiresCellReference hbody ht hsingle
      · rw [hn] at h
        cases h
        exact .unknownFunction hbody ha ht
  · intro h
    -- A name is that of an aggregate, of a text function or of none: two cases drop out each time.
    cases h with
    | unknownFunction hc ha ht =>
      rw [evaluate?_of_isCall hc, call, String.ofList_toList]
      rcases action_cases _ with ⟨ha', -⟩ | ⟨-, ht', -⟩ | ⟨-, -, hn⟩
      · exact absurd ha' ha
      · exact absurd ht' ht
      · rw [hn]
    | invalidRange hc ha hfirst =>
      rw [evaluate?_of_isCall hc, call, String.ofList_toList]
      rcases action_cases _ with ⟨-, -, f, hf⟩ | ⟨ha', -⟩ | ⟨ha', -⟩
      · rw [hf]
        exact (callAggregate_eq_error_iff hv).mpr ⟨_, hfirst, rfl⟩
      · exact absurd ha ha'
      · exact absurd ha ha'
    | requiresCellReference hc ht hsingle =>
      rw [evaluate?_of_isCall hc, call, String.ofList_toList]
      rcases action_cases _ with ⟨-, ht', -⟩ | ⟨-, -, f, hf⟩ | ⟨-, ht', -⟩
      · exact absurd ht ht'
      · rw [hf]
        exact callText_eq_error_iff.mpr ⟨hsingle, by rw [String.ofList_toList]⟩
      · exact absurd ht ht'

end View

/-- A formula fails if and only if something is wrong with its text, and with what is wrong; so what
the cells hold, and even where they stand, makes no difference to that. A reference that is invalid
by itself is never what is wrong, nor is a pattern. -/
theorem fails_iff_faulty (formula : String) {view : View} (hr : 1 ≤ view.rows)
    (hc : 1 ≤ view.cols) (anchor : Position) :
    (∀ e, evaluate? formula view anchor = .error e ↔ Faulty formula e) ∧
    ((∃ value, evaluate? formula view anchor = .ok value) ↔ ∀ e, ¬ Faulty formula e) ∧
    (∀ e, evaluate? formula view anchor = .error e →
      ((∃ name, e = .unknownFunction name) ∨ (∃ token, e = .invalidRange token) ∨
          ∃ name, e = .requiresCellReference name) ∧
        (∀ token, e ≠ .invalidReference token) ∧ ∀ error, e ≠ .invalidPattern error) ∧
    ∀ (w : View) (b : Position), 1 ≤ w.rows → 1 ≤ w.cols →
      (evaluate? formula w b).map (fun _ => ()) =
        (evaluate? formula view anchor).map (fun _ => ()) := by
  have hv : ¬ (view.rows = 0 ∨ view.cols = 0) := by omega
  have hiff : ∀ e, evaluate? formula view anchor = .error e ↔ Faulty formula e :=
    fun _ => evaluate?_eq_error_iff hv
  refine ⟨hiff, ?_, ?_, ?_⟩
  · constructor
    · rintro ⟨value, h⟩ e he
      cases h.symm.trans ((hiff e).mpr he)
    · intro hn
      cases h : evaluate? formula view anchor with
      | ok value => exact ⟨value, rfl⟩
      | error e => exact absurd ((hiff e).mp h) (hn e)
  · intro e h
    cases (hiff e).mp h with
    | unknownFunction => exact ⟨.inl ⟨_, rfl⟩, nofun, nofun⟩
    | invalidRange => exact ⟨.inr (.inl ⟨_, rfl⟩), nofun, nofun⟩
    | requiresCellReference => exact ⟨.inr (.inr ⟨_, rfl⟩), nofun, nofun⟩
  · intro w b hwr hwc
    have hw : ¬ (w.rows = 0 ∨ w.cols = 0) := by omega
    exact map_unit_eq fun e => (evaluate?_eq_error_iff hw).trans (hiff e).symm

/-- A parameter that is neither a reference nor a range and a range that is written backwards are
passed over, and of two ranges that are none the first is reported. Blanks and dollar signs make a
reference no other parameter, and a text function without one fails whatever the cells hold. -/
theorem fails_iff_faulty_of_threeByThree :
    (1 ≤ threeByThree.rows ∧ 1 ≤ threeByThree.cols) ∧
      Faulty "=sum(x, B2 : a1, A1:B, :)" (.invalidRange "A1:B") ∧
      (∀ e, ¬ Faulty "=Trim( $b$2 )" e) ∧
      ∀ value, (evaluate? "=Trim()" (threeByThree.withValue ⟨1, 1⟩ value) .origin).map
        (fun _ => ()) = .error (.requiresCellReference "TRIM") := by
  have hr : 1 ≤ threeByThree.rows := by decide
  have hc : 1 ≤ threeByThree.cols := by decide
  have hrange : evaluate? "=sum(x, B2 : a1, A1:B, :)" threeByThree .origin =
      .error (.invalidRange "A1:B") := by decide +kernel
  have htrim : evaluate? "=Trim( $b$2 )" (threeByThree.withValue ⟨1, 1⟩ (.text " a ")) .origin =
      .ok (.text "a") := by decide +kernel
  have hnone : evaluate? "=Trim()" threeByThree .origin =
      .error (.requiresCellReference "TRIM") := by decide +kernel
  refine ⟨⟨hr, hc⟩, ?_, ?_, fun value => ?_⟩
  · exact ((fails_iff_faulty _ hr hc .origin).1 _).mp hrange
  · exact (@fails_iff_faulty _ (threeByThree.withValue ⟨1, 1⟩ (.text " a ")) hr hc
      .origin).2.1.mp ⟨_, htrim⟩
  · have hsame := (@fails_iff_faulty "=Trim()" threeByThree hr hc .origin).2.2.2
      (threeByThree.withValue ⟨1, 1⟩ value) .origin hr hc
    rw [hsame, hnone]
    rfl

end Spreadsheet.Formula
