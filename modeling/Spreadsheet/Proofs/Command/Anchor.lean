import Mathlib
import Spreadsheet.Command.Folder
import Spreadsheet.Command.Run
import Spreadsheet.Proofs.Formula.Anchor

/-!
# The anchor on the command line

A run uses its anchor for one thing, the formula that it shows the value of, and that value does not
depend on the anchor. So arguments that ask for the same but for the anchor make the same run
(`run_eq_of_withoutAnchor`), among them arguments that name different cells as the anchor
(`run_at`). `anchor_irrelevant` puts this together with what holds of formulas.
-/

namespace Spreadsheet.Command

namespace Options

/-- The options but for the anchor. -/
def withoutAnchor (o : Options) : Options := { o with anchor := none }

variable {o o' : Options}

theorem exists_anchor (h : o.withoutAnchor = o'.withoutAnchor) :
    ∃ anchor, o' = { o with anchor := anchor } := by
  obtain ⟨file, command, anchor, edits, output, settings⟩ := o'
  simp only [withoutAnchor, mk.injEq] at h
  obtain ⟨rfl, rfl, -, rfl, rfl, rfl⟩ := h
  exact ⟨anchor, rfl⟩

/-- Options that differ in the anchor alone still do so with one more option. -/
theorem add_withoutAnchor (h : o.withoutAnchor = o'.withoutAnchor) (flag : Flag) (value : String) :
    (o.add flag value).map withoutAnchor = (o'.add flag value).map withoutAnchor := by
  obtain ⟨anchor, rfl⟩ := exists_anchor h
  cases flag with
  | command => rfl
  | anchor => rfl
  | set =>
    simp only [add]
    cases readSet value <;> rfl
  | insert axis =>
    simp only [add]
    cases readIndex axis value <;> rfl
  | delete axis =>
    simp only [add]
    cases readIndex axis value <;> rfl
  | output => rfl
  | settings => rfl

/-! ## Arguments one by one -/

variable {arg : String}

theorem addArguments_help (hh : isHelp arg) (rest : List String) :
    o.addArguments (arg :: rest) = .ok none := by
  unfold addArguments
  rw [if_pos hh]

theorem addArguments_flag {flag : Flag} (hh : ¬ isHelp arg) (hf : Flag.named? arg = some flag)
    (value : String) (rest : List String) :
    o.addArguments (arg :: value :: rest) =
      (o.add flag value).bind fun p => p.addArguments rest := by
  rw [addArguments.eq_def]
  simp only
  rw [if_neg hh, hf]
  cases hp : o.add flag value <;> simp only [hp] <;> rfl

theorem addArguments_dangling {flag : Flag} (hh : ¬ isHelp arg)
    (hf : Flag.named? arg = some flag) : o.addArguments [arg] = .error (.missingValue arg) := by
  unfold addArguments
  rw [if_neg hh, hf]

theorem addArguments_plain (hh : ¬ isHelp arg) (hf : Flag.named? arg = none) (rest : List String) :
    o.addArguments (arg :: rest) =
      if looksLikeOption arg then .error (.unknownOption arg)
      else if o.file.isSome then .error (.unexpectedArgument arg)
      else { o with file := some arg }.addArguments rest := by
  rw [addArguments.eq_def]
  simp only
  rw [if_neg hh, hf]

/-- Options that differ in the anchor alone still do so with further arguments. -/
theorem addArguments_withoutAnchor (h : o.withoutAnchor = o'.withoutAnchor) (args : List String) :
    (o.addArguments args).map (Option.map withoutAnchor) =
      (o'.addArguments args).map (Option.map withoutAnchor) := by
  fun_induction addArguments o args generalizing o' with
  | case1 o => simp only [addArguments, Except.map, Option.map_some, h]
  | case2 o arg rest hh => rw [addArguments_help hh]
  | case3 o arg hh flag value rest hf p hp ih =>
    have ha := add_withoutAnchor h flag value
    rw [hp] at ha
    rw [addArguments_flag hh hf]
    cases hp' : o'.add flag value with
    | error e => rw [hp'] at ha; cases ha
    | ok p' =>
      rw [hp'] at ha
      exact ih (Except.ok.inj ha)
  | case4 o arg hh flag value rest hf e he =>
    have ha := add_withoutAnchor h flag value
    rw [he] at ha
    rw [addArguments_flag hh hf]
    cases hp' : o'.add flag value with
    | error e' => rw [hp'] at ha; cases ha; rfl
    | ok p' => rw [hp'] at ha; cases ha
  | case5 o arg hh flag hf => rw [addArguments_dangling hh hf]
  | case6 o arg hh rest hf hl => rw [addArguments_plain hh hf, if_pos hl]
  | case7 o arg hh rest hf hl hs =>
    obtain ⟨anchor, rfl⟩ := exists_anchor h
    rw [addArguments_plain hh hf, if_neg hl, if_pos hs]
  | case8 o arg hh rest hf hl hs ih =>
    obtain ⟨anchor, rfl⟩ := exists_anchor h
    rw [addArguments_plain hh hf, if_neg hl, if_neg hs]
    exact ih rfl

/-- Arguments that can be understood are read before those that follow them. -/
theorem addArguments_append {before : List String} {r : Option Options}
    (h : o.addArguments before = .ok r) (after : List String) :
    o.addArguments (before ++ after) = r.elim (.ok none) fun p => p.addArguments after := by
  fun_induction addArguments o before with
  | case1 o =>
    cases h
    rfl
  | case2 o arg rest hh =>
    cases h
    exact addArguments_help hh _
  | case3 o arg hh flag value rest hf p hp ih =>
    rw [List.cons_append, List.cons_append, addArguments_flag hh hf, hp]
    exact ih h
  | case4 | case5 | case6 | case7 => cases h
  | case8 o arg hh rest hf hl hs ih =>
    rw [List.cons_append, addArguments_plain hh hf, if_neg hl, if_neg hs]
    exact ih h

theorem addArguments_at {cell : String} {p : Position} (h : readCell cell = .ok p)
    (rest : List String) :
    o.addArguments ("--at" :: cell :: rest) = { o with anchor := some p }.addArguments rest := by
  have ha : o.add .anchor cell = .ok { o with anchor := some p } := by
    simp only [add, h]
    rfl
  rw [addArguments_flag (by decide) rfl, ha]
  rfl

end Options

/-! ## Runs -/

section

variable {m : Type → Type} [Monad m]

theorem answer_anchor (d : Document) (command : String) (a b : Option Position) :
    answer d command a = answer d command b := by
  unfold answer Document.evaluate
  simp only [Formula.evaluate_anchor (a.getD .origin) (b.getD .origin)]

theorem runOptions_withoutAnchor (files : Access m) (usersFile : Option String) (o : Options) :
    runOptions files usersFile o.withoutAnchor = runOptions files usersFile o := by
  have hd : finalDocument files usersFile o.withoutAnchor = finalDocument files usersFile o := rfl
  have hf : finish files o.withoutAnchor = finish files o := by
    have ha : ∀ d, answerLine d o.withoutAnchor = answerLine d o := by
      intro d
      unfold answerLine
      simp only [Options.withoutAnchor, answer_anchor d _ none o.anchor]
    unfold finish
    funext d
    rw [ha]
    rfl
  unfold runOptions
  rw [hd, hf]

/-- Arguments that ask for the same but for the anchor make the same run. -/
theorem run_eq_of_withoutAnchor {args args' : List String}
    (h : (Options.ofArguments args).map (Option.map Options.withoutAnchor) =
      (Options.ofArguments args').map (Option.map Options.withoutAnchor))
    (files : Access m) (usersFile : Option String) :
    run files usersFile args = run files usersFile args' := by
  unfold run
  generalize Options.ofArguments args = r at h ⊢
  generalize Options.ofArguments args' = r' at h ⊢
  rcases r with e | _ | o <;> rcases r' with e' | _ | o' <;>
    simp only [Except.map, Option.map_none, Option.map_some, Except.ok.injEq, Except.error.injEq,
      Option.some.injEq, reduceCtorEq] at h
  · rw [h]
  · rfl
  · simp only
    rw [← runOptions_withoutAnchor files usersFile o, h, runOptions_withoutAnchor]

/-- Which cell is named as the anchor makes no difference, whatever else is asked for. -/
theorem run_at {before : List String} {r : Option Options} {cell cell' : String} {p q : Position}
    (hb : Options.ofArguments before = .ok r) (hc : readCell cell = .ok p)
    (hc' : readCell cell' = .ok q) (after : List String) (files : Access m)
    (usersFile : Option String) :
    run files usersFile (before ++ "--at" :: cell :: after) =
      run files usersFile (before ++ "--at" :: cell' :: after) := by
  refine run_eq_of_withoutAnchor ?_ files usersFile
  unfold Options.ofArguments at hb ⊢
  rw [Options.addArguments_append hb, Options.addArguments_append hb]
  cases r with
  | none => rfl
  | some o =>
    rw [Option.elim_some, Option.elim_some, Options.addArguments_at hc, Options.addArguments_at hc']
    have h : { o with anchor := some p }.withoutAnchor =
        { o with anchor := some q }.withoutAnchor := rfl
    exact Options.addArguments_withoutAnchor h after

end

/-! ## All that an anchor is given to -/

/-- Nothing depends on the anchor: not the value of a formula or what is wrong with it, not what
ranges, parameters and arithmetic come to on the way, and not the run of a command line that names a
cell as the anchor. -/
theorem anchor_irrelevant (a b : Position) :
    (∀ formula view, Formula.evaluate formula view a = Formula.evaluate formula view b) ∧
    (∀ formula view, Formula.evaluate? formula view a = Formula.evaluate? formula view b) ∧
    (∀ token rows cols, Formula.rangeRectangle token a rows cols =
      Formula.rangeRectangle token b rows cols) ∧
    (∀ token view, Formula.rangeBlock token view a = Formula.rangeBlock token view b) ∧
    (∀ parameters view, Formula.parametersValues parameters view a =
      Formula.parametersValues parameters view b) ∧
    (∀ text view, Formula.substitute text view a = Formula.substitute text view b) ∧
    ∀ (before after : List String) (r : Option Options) (cell cell' : String),
      Options.ofArguments before = .ok r → readCell cell = .ok a → readCell cell' = .ok b →
        ∀ (m : Type → Type) [Monad m] (files : Access m) (usersFile : Option String),
          run files usersFile (before ++ "--at" :: cell :: after) =
            run files usersFile (before ++ "--at" :: cell' :: after) :=
  ⟨Formula.evaluate_anchor a b, Formula.evaluate?_anchor a b, Formula.rangeRectangle_anchor a b,
    Formula.rangeBlock_anchor a b, Formula.parametersValues_anchor a b,
    Formula.substitute_anchor a b, fun _ after _ _ _ hb hc hc' _ _ files usersFile =>
      run_at hb hc hc' after files usersFile⟩

/-- A formula with a reference and a range, on a sheet with an edit, at two cells of which one lies
far outside. -/
theorem anchor_irrelevant_of_far :
    Options.ofArguments ["--set", "B1=4"] = .ok (some { edits := [.set ⟨0, 1⟩ "4"] }) ∧
      readCell "b7" = .ok ⟨6, 1⟩ ∧
      readCell "$ZZ9223372036854775807" = .ok ⟨9223372036854775806, 701⟩ ∧
      run Folder.access none (["--set", "B1=4"] ++ "--at" :: "b7" :: ["-c", "SUM(A1:B2, $B1)"]) =
        run Folder.access none (["--set", "B1=4"] ++
          "--at" :: "$ZZ9223372036854775807" :: ["-c", "SUM(A1:B2, $B1)"]) := by
  have hb : Options.ofArguments ["--set", "B1=4"] =
      .ok (some { edits := [.set ⟨0, 1⟩ "4"] }) := by cbv
  have hc : readCell "b7" = .ok ⟨6, 1⟩ := by cbv
  have hc' : readCell "$ZZ9223372036854775807" = .ok ⟨9223372036854775806, 701⟩ := by cbv
  exact ⟨hb, hc, hc', (anchor_irrelevant ⟨6, 1⟩ ⟨9223372036854775806, 701⟩).2.2.2.2.2.2 _ _ _ _ _
    hb hc hc' _ _ none⟩

end Spreadsheet.Command
