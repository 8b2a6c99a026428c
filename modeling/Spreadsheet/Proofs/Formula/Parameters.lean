import Mathlib.Data.List.Forall2
import Spreadsheet.Proofs.Formula.Parentheses
import Spreadsheet.Proofs.Text.Stretch

/-!
# Parameters and the commas between them

An argument text is cut at the commas that stand outside parentheses. Texts without such a comma,
and with as many parentheses closed as opened, come out again when they are joined by commas
(`piecesFrom_intercalate`). The parameters are these texts without the blanks around them, as long
as the last one is more than blanks (`parameters_intercalate`).
-/

namespace Spreadsheet.Formula

variable {text rest : List Char} {texts : List (List Char)} {k : Int}

/-- Whether no comma of a text stands at depth zero, when `k` parentheses are open before it. -/
def Uncut (k : Int) : List Char → Prop
  | [] => True
  | c :: rest => ¬ (c = ',' ∧ k = 0) ∧ Uncut (depthAfter k c) rest

instance decidableUncut : (k : Int) → (text : List Char) → Decidable (Uncut k text)
  | _, [] => inferInstanceAs (Decidable True)
  | k, c :: rest =>
    have := decidableUncut (depthAfter k c) rest
    inferInstanceAs (Decidable (¬ (c = ',' ∧ k = 0) ∧ Uncut (depthAfter k c) rest))

theorem piecesFrom_append (h : Uncut k text) (rest : List Char) :
    piecesFrom k (text ++ rest) =
      (piecesFrom (text.foldl depthAfter k) rest).modifyHead (text ++ ·) := by
  induction text generalizing k with
  | nil =>
    cases hp : piecesFrom k rest <;> simp [hp]
  | cons c text ih =>
    obtain ⟨hc, htext⟩ := h
    rw [List.cons_append, piecesFrom, if_neg hc, ih htext, List.modifyHead_modifyHead,
      List.foldl_cons]
    rfl

/-- Whether a text is one piece between commas. -/
structure IsPiece (text : List Char) : Prop where
  uncut : Uncut 0 text
  depth_eq : depth text = 0

theorem IsPiece.piecesFrom_append (h : IsPiece text) (rest : List Char) :
    piecesFrom 0 (text ++ rest) = (piecesFrom 0 rest).modifyHead (text ++ ·) := by
  have hp := Formula.piecesFrom_append h.uncut rest
  rwa [foldl_depthAfter, h.depth_eq] at hp

theorem piecesFrom_intercalate (hne : texts ≠ []) (h : ∀ text ∈ texts, IsPiece text) :
    piecesFrom 0 ([','].intercalate texts) = texts := by
  induction texts with
  | nil => exact absurd rfl hne
  | cons text texts ih =>
    have htext := h text List.mem_cons_self
    cases texts with
    | nil =>
      have hp := htext.piecesFrom_append []
      rw [List.append_nil, piecesFrom, List.modifyHead_cons, List.append_nil] at hp
      rwa [List.intercalate_singleton]
    | cons text' texts =>
      have hrest := ih (List.cons_ne_nil _ _) fun t ht => h t (List.mem_cons_of_mem text ht)
      rw [List.intercalate_cons_cons, List.append_assoc, htext.piecesFrom_append,
        List.singleton_append, piecesFrom, if_pos ⟨rfl, rfl⟩, hrest, List.modifyHead_cons,
        List.append_nil]

theorem parameters_intercalate (hne : texts ≠ []) (h : ∀ text ∈ texts, IsPiece text)
    (hlast : ∀ text ∈ texts.getLast?, Text.trim text ≠ []) :
    parameters ([','].intercalate texts) = texts.map Text.trim := by
  unfold parameters
  rw [piecesFrom_intercalate hne h]
  refine if_neg fun hnil => ?_
  rw [List.getLast?_map, Option.map_eq_some_iff] at hnil
  obtain ⟨text, htext, hnil⟩ := hnil
  exact hlast text htext hnil

/-- A text without commas and parentheses is one piece. -/
theorem IsPiece.of_forall (h : ∀ c ∈ text, c ≠ ',' ∧ c ≠ '(' ∧ c ≠ ')') : IsPiece text := by
  induction text with
  | nil => exact ⟨trivial, rfl⟩
  | cons c text ih =>
    obtain ⟨⟨hcomma, hopening, hclosing⟩, htext⟩ := List.forall_mem_cons.mp h
    have hdepth : depthAfter 0 c = 0 := by
      unfold depthAfter
      rw [if_neg hopening, if_neg hclosing]
    refine ⟨⟨fun hc => hcomma hc.1, ?_⟩, ?_⟩
    · rw [hdepth]
      exact (ih htext).uncut
    · rw [depth_cons, hdepth, (ih htext).depth_eq]
      rfl

theorem Uncut.append (h : Uncut k text) (hr : Uncut (k + depth text) rest) :
    Uncut k (text ++ rest) := by
  induction text generalizing k with
  | nil => rwa [depth, List.foldl_nil, Int.add_zero] at hr
  | cons c text ih =>
    refine ⟨h.1, ih h.2 ?_⟩
    rwa [depthAfter_eq k c, Int.add_assoc, ← depth_cons]

theorem IsPiece.append (h : IsPiece text) (hr : IsPiece rest) : IsPiece (text ++ rest) where
  uncut := h.uncut.append (by rw [h.depth_eq]; exact hr.uncut)
  depth_eq := by rw [depth_append, h.depth_eq, hr.depth_eq]; rfl

/-- Blanks are one piece. -/
theorem IsPiece.of_blanks (h : ∀ c ∈ text, Text.isBlank c) : IsPiece text := by
  refine .of_forall fun c hc => ⟨?_, ?_, ?_⟩
  all_goals
    rintro rfl
    exact absurd (h _ hc) (by decide)

/-! ## Joined parameters -/

/-- A comma stands at depth zero if the text in front of it closes what it opens. -/
theorem uncut_iff :
    Uncut k text ↔ ∀ before after, text = before ++ ',' :: after → k + depth before ≠ 0 := by
  induction text generalizing k with
  | nil => simp [Uncut]
  | cons c text ih =>
    have hstep : ∀ before, k + depth (c :: before) = depthAfter k c + depth before := by
      intro before
      rw [depth_cons, depthAfter_eq k c, Int.add_assoc]
    rw [Uncut, ih]
    constructor
    · rintro ⟨hc, htext⟩ before after h
      cases before with
      | nil =>
        obtain ⟨rfl, -⟩ := List.cons_eq_cons.mp h
        simpa [depth] using hc
      | cons b before =>
        obtain ⟨rfl, ht⟩ := List.cons_eq_cons.mp h
        rw [hstep]
        exact htext before after ht
    · intro h
      constructor
      · rintro ⟨rfl, rfl⟩
        exact h [] text rfl rfl
      · intro before after htext
        rw [← hstep]
        exact h (c :: before) after (by rw [htext]; rfl)

/-- Whether a text can be listed as a parameter: no blanks at its ends, its parentheses balanced,
and commas only between parentheses. It may be empty. -/
structure IsParameter (text : List Char) : Prop where
  start : StopsAt Text.isBlank text
  stop : StopsAt Text.isBlank text.reverse
  balanced : Balanced text
  comma : ∀ before after, text = before ++ ',' :: after → depth before ≠ 0

theorem isParameter_iff : IsParameter text ↔ StopsAt Text.isBlank text ∧
    StopsAt Text.isBlank text.reverse ∧ Balanced text ∧ Uncut 0 text := by
  rw [uncut_iff]
  simp only [Int.zero_add]
  exact ⟨fun ⟨hs, he, hb, hc⟩ => ⟨hs, he, hb, hc⟩, fun ⟨hs, he, hb, hc⟩ => ⟨hs, he, hb, hc⟩⟩

instance : DecidablePred IsParameter := fun _ => decidable_of_iff' _ isParameter_iff

/-- Whether the second text is the first with blanks in front of it and behind it. -/
def Padded (text padded : List Char) : Prop :=
  ∃ before after, padded = before ++ text ++ after ∧ (∀ c ∈ before, Text.isBlank c) ∧
    ∀ c ∈ after, Text.isBlank c

theorem IsParameter.isPiece (h : IsParameter text) : IsPiece text where
  uncut := uncut_iff.mpr fun before after ht => by
    rw [Int.zero_add]
    exact h.comma before after ht
  depth_eq := h.balanced.depth_eq

theorem IsParameter.isPiece_padded {padded : List Char} (h : IsParameter text)
    (hp : Padded text padded) : IsPiece padded := by
  obtain ⟨before, after, rfl, hb, ha⟩ := hp
  exact ((IsPiece.of_blanks hb).append h.isPiece).append (.of_blanks ha)

theorem IsParameter.trim_padded {padded : List Char} (h : IsParameter text)
    (hp : Padded text padded) : Text.trim padded = text := by
  obtain ⟨before, after, rfl, hb, ha⟩ := hp
  exact Text.trim_padded hb ha h.start h.stop

theorem pieces_of_padded {params pieces : List (List Char)}
    (hparams : ∀ param ∈ params, IsParameter param) (hpadded : List.Forall₂ Padded params pieces) :
    (∀ piece ∈ pieces, IsPiece piece) ∧ pieces.map Text.trim = params := by
  induction hpadded with
  | nil => exact ⟨nofun, rfl⟩
  | cons hp _ ih =>
    obtain ⟨hparam, hparams⟩ := List.forall_mem_cons.mp hparams
    obtain ⟨hpieces, htrim⟩ := ih hparams
    refine ⟨List.forall_mem_cons.mpr ⟨hparam.isPiece_padded hp, hpieces⟩, ?_⟩
    rw [List.map_cons, hparam.trim_padded hp, htrim]

/-- Parameters that are joined by commas, with any blanks around them, are listed as they were. Some
of them may be empty, but not the last, which would not be told from no parameter at all. -/
theorem parameters_of_joined {params pieces : List (List Char)} (hne : params ≠ [])
    (hparams : ∀ param ∈ params, IsParameter param) (hlast : params.getLast? ≠ some [])
    (hpadded : List.Forall₂ Padded params pieces) :
    parameters ([','].intercalate pieces) = params := by
  obtain ⟨hpieces, htrim⟩ := pieces_of_padded hparams hpadded
  have hpne : pieces ≠ [] := by
    rintro rfl
    exact hne htrim.symm
  rw [parameters_intercalate hpne hpieces ?_, htrim]
  intro piece hpiece hnil
  refine hlast ?_
  rw [← htrim, List.getLast?_map, hpiece, Option.map_some, hnil]

/-- Three parameters with blanks around them: a range, an empty one and a call. -/
theorem parameters_of_joined_of_nested :
    (∀ param ∈ ["A1:B2".toList, [], "MAX(A1, (B1))".toList], IsParameter param) ∧
      parameters " A1:B2\t,\n,MAX(A1, (B1)) ".toList =
        ["A1:B2".toList, [], "MAX(A1, (B1))".toList] := by
  have hparams : ∀ param ∈ ["A1:B2".toList, [], "MAX(A1, (B1))".toList], IsParameter param := by
    decide +kernel
  have blanks : ∀ {cs : List Char}, cs.all Text.isBlank → ∀ c ∈ cs, Text.isBlank c :=
    List.all_eq_true.mp
  have hpadded : List.Forall₂ Padded ["A1:B2".toList, [], "MAX(A1, (B1))".toList]
      [" A1:B2\t".toList, ['\n'], "MAX(A1, (B1)) ".toList] :=
    .cons ⟨[' '], ['\t'], rfl, blanks rfl, blanks rfl⟩
      (.cons ⟨['\n'], [], rfl, blanks rfl, blanks rfl⟩
        (.cons ⟨[], [' '], rfl, blanks rfl, blanks rfl⟩ .nil))
  exact ⟨hparams, parameters_of_joined (by decide) hparams (by decide) hpadded⟩

end Spreadsheet.Formula
