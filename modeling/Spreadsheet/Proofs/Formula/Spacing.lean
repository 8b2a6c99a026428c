import Mathlib.Data.List.Forall2
import Spreadsheet.Proofs.Formula.Parameters
import Spreadsheet.Proofs.Formula.Plain

/-!
# Blanks in calls

`SpacedArguments parameters args` says that an argument text lists parameters, which are references
and ranges, with spaces, tabs and line breaks around them, and around the colons of the ranges.
Blanks are dropped in two places, around parameters and around the corners of ranges, so a call with
them comes to the same as the call without (`evaluate_spaced`). But a call has to stand on one
line. With a line feed in it, it is taken for arithmetic, which cannot start with a name, and comes
to zero (`evaluate_of_newline`).
-/

namespace Spreadsheet.Formula

variable {cs ds first last first' last' p q args name : List Char} {ps texts : List (List Char)}

theorem upper_separators (h : ∀ c ∈ cs, isSeparator c) : Text.upper cs = cs := by
  have hcase : ∀ c ∈ separators, c.toNat < 0x80 ∧ c.toUpper = c :=
    List.all_iff_forall_prop.mp (by decide)
  exact Text.upper_eq_self fun c hc => hcase c (mem_separators (h c hc))

/-! ## Blanks around a text -/

/-- Whether the second text is the first with blanks in front of it and behind it. -/
def Surrounded (cs ds : List Char) : Prop :=
  ∃ before after, ds = before ++ cs ++ after ∧ (∀ c ∈ before, isSeparator c) ∧
    ∀ c ∈ after, isSeparator c

theorem Surrounded.refl (cs : List Char) : Surrounded cs cs :=
  ⟨[], [], by simp, by simp, by simp⟩

theorem Surrounded.upper (h : Surrounded cs ds) : Surrounded (Text.upper cs) (Text.upper ds) := by
  obtain ⟨before, after, rfl, hb, ha⟩ := h
  refine ⟨before, after, ?_, hb, ha⟩
  rw [Text.upper_append, Text.upper_append, upper_separators hb, upper_separators ha]

/-- What is true of the characters of references and of blanks is true of a reference between
blanks. -/
theorem Surrounded.forall_mem {P : Char → Prop} [DecidablePred P]
    (hP : (separators ++ Reference.alphabet).all fun c => decide (P c)) (hr : IsReference cs)
    (h : Surrounded cs ds) : ∀ c ∈ ds, P c := by
  obtain ⟨before, after, rfl, hbefore, hafter⟩ := h
  have hP := List.forall_mem_append.mp (List.all_iff_forall_prop.mp hP)
  refine List.forall_mem_append.mpr ⟨List.forall_mem_append.mpr ⟨?_, ?_⟩, ?_⟩
  · exact fun c hc => hP.1 c (mem_separators (hbefore c hc))
  · exact fun c hc => hP.2 c (hr.mem_alphabet c hc)
  · exact fun c hc => hP.1 c (mem_separators (hafter c hc))

theorem isBlank_of_isSeparator {c : Char} (h : isSeparator c) : Text.isBlank c := by
  have hs : ∀ c ∈ separators, Text.isBlank c := List.all_iff_forall_prop.mp (by decide)
  exact hs c (mem_separators h)

theorem trim_surrounded (hr : IsReference cs) (h : Surrounded cs ds) : Text.trim ds = cs := by
  obtain ⟨before, after, rfl, hb, ha⟩ := h
  exact hr.trim_padded (fun c hc => isBlank_of_isSeparator (hb c hc))
    fun c hc => isBlank_of_isSeparator (ha c hc)

/-! ## Parameters that come to the same -/

/-- Whether two parameters contribute the same values everywhere, and are the same reference if they
are one. -/
structure Interchangeable (p q : List Char) : Prop where
  values : ∀ view anchor, parameterValues view anchor p = parameterValues view anchor q
  parsed : ∀ anchor, Reference.parseAt? p anchor = Reference.parseAt? q anchor

theorem Interchangeable.symm (h : Interchangeable p q) : Interchangeable q p :=
  ⟨fun view anchor => (h.values view anchor).symm, fun anchor => (h.parsed anchor).symm⟩

theorem Interchangeable.trans {r : List Char} (h : Interchangeable p q) (h' : Interchangeable q r) :
    Interchangeable p r :=
  ⟨fun view anchor => (h.values view anchor).trans (h'.values view anchor),
    fun anchor => (h.parsed anchor).trans (h'.parsed anchor)⟩

theorem parametersValues_interchangeable {qs : List (List Char)}
    (h : List.Forall₂ Interchangeable ps qs) (view : View) (anchor : Position) :
    parametersValues ps view anchor = parametersValues qs view anchor := by
  have hm : ps.mapM (parameterValues view anchor) = qs.mapM (parameterValues view anchor) := by
    induction h with
    | nil => rfl
    | cons hp _ ih => rw [List.mapM_cons, List.mapM_cons, hp.values, ih]
  unfold parametersValues
  rw [hm]

theorem call_interchangeable {qs : List (List Char)} (h : List.Forall₂ Interchangeable ps qs)
    (name : List Char) (view : View) (anchor : Position) :
    call name ps view anchor = call name qs view anchor := by
  unfold call
  split
  · rfl
  · unfold callAggregate
    rw [parametersValues_interchangeable h]
  · -- Either both lists are a single parameter or neither is.
    cases h with
    | nil => rfl
    | cons hp htail =>
      cases htail with
      | nil => simp only [callText, hp.parsed]
      | cons _ _ => rfl

/-! ## References and ranges with blanks -/

/-- Whether the second text is the first, a reference or a range in either case, with blanks around
its references. -/
inductive SpacedParameter : List Char → List Char → Prop where
  | reference {cs ds : List Char} : IsReference (Text.upper cs) → Surrounded cs ds →
      SpacedParameter cs ds
  | range {first last first' last' : List Char} : IsReference (Text.upper first) →
      IsReference (Text.upper last) → Surrounded first first' → Surrounded last last' →
      SpacedParameter (first ++ ':' :: last) (first' ++ ':' :: last')

theorem upper_colon (first last : List Char) :
    Text.upper (first ++ ':' :: last) = Text.upper first ++ ':' :: Text.upper last := by
  rw [Text.upper_append, Text.upper_cons_of_ascii (by decide)]
  rfl

/-- The corners of a range are found between the blanks. -/
theorem rangeRectangle_surrounded (hf : IsReference first) (hl : IsReference last)
    (hfs : Surrounded first first') (hls : Surrounded last last') (anchor : Position)
    (rows cols : Nat) :
    rangeRectangle (first' ++ ':' :: last') anchor rows cols =
      rangeRectangle (first ++ ':' :: last) anchor rows cols := by
  -- Read either way, the corners are the two references, so no text of a range gets into an error.
  have corners : ∀ {first' last'}, Surrounded first first' → Surrounded last last' →
      rangeCorners? (first' ++ ':' :: last') anchor =
        (Reference.parse? first).bind fun r => (Reference.parse? last).map fun r' =>
          (r.relativeTo anchor, r'.relativeTo anchor) := by
    intro first' last' hfs hls
    have hcolon : ':' ∉ first' := fun hc =>
      hfs.forall_mem (P := (· ≠ ':')) (by decide) hf ':' hc rfl
    rw [rangeCorners?_eq, splitRange?_eq_some_iff.mpr ⟨rfl, hcolon⟩, Option.bind_some,
      trim_surrounded hf hfs, trim_surrounded hl hls]
  obtain ⟨r, hr⟩ := hf
  obtain ⟨r', hr'⟩ := hl
  unfold rangeRectangle
  rw [corners hfs hls, corners (.refl first) (.refl last), hr, hr']
  rfl

theorem trim_range (hf : IsReference first) (hl : IsReference last)
    (hfs : Surrounded first first') (hls : Surrounded last last') :
    ∃ first'' last'', Text.trim (first' ++ ':' :: last') = first'' ++ ':' :: last'' ∧
      Surrounded first first'' ∧ Surrounded last last'' := by
  obtain ⟨before, between, rfl, hbefore, hbetween⟩ := hfs
  obtain ⟨between', after, rfl, hbetween', hafter⟩ := hls
  refine ⟨first ++ between, between' ++ last, ?_, ⟨[], between, by simp, by simp, hbetween⟩,
    between', [], by simp, hbetween', by simp⟩
  have hassoc : before ++ first ++ between ++ ':' :: (between' ++ last ++ after) =
      before ++ (first ++ between ++ ':' :: (between' ++ last)) ++ after := by
    simp
  have hstart : StopsAt Text.isBlank (first ++ between ++ ':' :: (between' ++ last)) := by
    rw [List.append_assoc]
    exact stopsAt_append hf.not_isBlank hf.ne_nil _
  have hend : StopsAt Text.isBlank (first ++ between ++ ':' :: (between' ++ last)).reverse := by
    have hlast : ∀ c ∈ last.reverse, Text.isBlank c = false := fun c hc =>
      hl.not_isBlank c (List.mem_reverse.mp hc)
    have hrev : (first ++ between ++ ':' :: (between' ++ last)).reverse =
        last.reverse ++ (first ++ between ++ ':' :: between').reverse := by
      simp
    rw [hrev]
    exact stopsAt_append hlast (List.reverse_ne_nil_iff.mpr hl.ne_nil) _
  rw [hassoc]
  exact Text.trim_padded (fun c hc => isBlank_of_isSeparator (hbefore c hc))
    (fun c hc => isBlank_of_isSeparator (hafter c hc)) hstart hend

theorem interchangeable_range (hf : IsReference first) (hl : IsReference last)
    (hfs : Surrounded first first') (hls : Surrounded last last') :
    Interchangeable (first' ++ ':' :: last') (first ++ ':' :: last) where
  values view anchor := by
    have hc : ':' ∈ first ++ ':' :: last := by simp
    have hc' : ':' ∈ first' ++ ':' :: last' := by simp
    unfold parameterValues rangeBlock
    rw [if_pos hc, if_pos hc', if_pos hc, if_pos hc', rangeRectangle_surrounded hf hl hfs hls]
  parsed anchor := by
    have unread : ∀ first last, Reference.parseAt? (first ++ ':' :: last) anchor = none := by
      intro first last
      refine Option.eq_none_iff_forall_ne_some.mpr fun r hr => ?_
      exact Reference.colon_notMem_of_parseAt? hr (by simp)
    rw [unread, unread]

/-- In capitals and without the blanks around it, a parameter comes to the same as it does without
any blanks. -/
theorem SpacedParameter.interchangeable (h : SpacedParameter p q) :
    Interchangeable (Text.trim (Text.upper q)) (Text.upper p) := by
  cases h with
  | reference hr hs =>
    rw [trim_surrounded hr hs.upper]
    exact ⟨fun _ _ => rfl, fun _ => rfl⟩
  | range hf hl hfs hls =>
    rw [upper_colon, upper_colon]
    obtain ⟨first'', last'', htrim, hfs', hls'⟩ := trim_range hf hl hfs.upper hls.upper
    rw [htrim]
    exact interchangeable_range hf hl hfs' hls'

/-! ## Argument texts -/

/-- Whether a text lists parameters, with blanks around their references. If there are none, there
may still be blanks. -/
inductive SpacedArguments : List (List Char) → List Char → Prop where
  | none {blanks : List Char} : (∀ c ∈ blanks, isSeparator c) → SpacedArguments [] blanks
  | list {ps texts : List (List Char)} : ps ≠ [] → List.Forall₂ SpacedParameter ps texts →
      SpacedArguments ps ([','].intercalate texts)

theorem SpacedParameter.refl (h : SpacedParameter p q) : SpacedParameter p p := by
  cases h with
  | reference hr _ => exact .reference hr (.refl p)
  | range hf hl _ _ => exact .range hf hl (.refl _) (.refl _)

theorem SpacedParameter.isPiece (h : SpacedParameter p q) : IsPiece (Text.upper q) := by
  refine .of_forall ?_
  have hmarks : (separators ++ Reference.alphabet).all fun c =>
      decide (c ≠ ',' ∧ c ≠ '(' ∧ c ≠ ')') := by
    decide
  cases h with
  | reference hr hs => exact hs.upper.forall_mem hmarks hr
  | range hf hl hfs hls =>
    rw [upper_colon]
    exact List.forall_mem_append.mpr ⟨hfs.upper.forall_mem hmarks hf,
      List.forall_mem_cons.mpr ⟨by decide, hls.upper.forall_mem hmarks hl⟩⟩

theorem SpacedParameter.trim_ne_nil (h : SpacedParameter p q) :
    Text.trim (Text.upper q) ≠ [] := by
  cases h with
  | reference hr hs =>
    rw [trim_surrounded hr hs.upper]
    exact hr.ne_nil
  | range hf hl hfs hls =>
    rw [upper_colon]
    obtain ⟨first'', last'', htrim, -⟩ := trim_range hf hl hfs.upper hls.upper
    rw [htrim]
    exact List.append_ne_nil_of_right_ne_nil _ (List.cons_ne_nil _ _)

theorem parameters_of_spaced (hne : ps ≠ []) (h : List.Forall₂ SpacedParameter ps texts) :
    parameters (Text.upper ([','].intercalate texts)) =
      texts.map fun text => Text.trim (Text.upper text) := by
  have hmem : ∀ text ∈ texts, ∃ p, SpacedParameter p text := by
    clear hne
    induction h with
    | nil => simp
    | cons hp _ ih => exact List.forall_mem_cons.mpr ⟨⟨_, hp⟩, ih⟩
  have hpiece : ∀ text ∈ texts.map Text.upper, IsPiece text := by
    refine List.forall_mem_map.mpr fun text htext => ?_
    obtain ⟨p, hp⟩ := hmem text htext
    exact hp.isPiece
  have hlast : ∀ text ∈ (texts.map Text.upper).getLast?, Text.trim text ≠ [] := by
    intro upper hupper
    obtain ⟨text, htext, rfl⟩ := List.mem_map.mp (List.mem_of_getLast? hupper)
    obtain ⟨p, hp⟩ := hmem text htext
    exact hp.trim_ne_nil
  have hnonempty : texts.map Text.upper ≠ [] := by
    cases h with
    | nil => exact absurd rfl hne
    | cons _ _ => exact List.cons_ne_nil _ _
  rw [Text.upper_intercalate, parameters_intercalate hnonempty hpiece hlast, List.map_map]
  rfl

theorem parameters_of_blanks {blanks : List Char} (h : ∀ c ∈ blanks, isSeparator c) :
    parameters blanks = [] := by
  have hblank : ∀ c ∈ blanks, Text.isBlank c := fun c hc => isBlank_of_isSeparator (h c hc)
  have hpieces : piecesFrom 0 blanks = [blanks] := by
    have hp := piecesFrom_intercalate (List.cons_ne_nil blanks [])
      (List.forall_mem_singleton.mpr (.of_blanks hblank))
    rwa [List.intercalate_singleton] at hp
  unfold parameters
  rw [hpieces, List.map_singleton, Text.trim_eq_nil hblank]
  rfl

/-- With blanks or without, the parameters of a call come to the same. -/
theorem SpacedArguments.interchangeable (h : SpacedArguments ps args) :
    List.Forall₂ Interchangeable (parameters (Text.upper args))
      (parameters (Text.upper ([','].intercalate ps))) := by
  cases h with
  | none hblanks =>
    rw [upper_separators hblanks, parameters_of_blanks hblanks]
    exact .nil
  | @list ps texts hne h =>
    have hplain : List.Forall₂ SpacedParameter ps ps := by
      clear hne
      induction h with
      | nil => exact .nil
      | cons hp _ ih => exact .cons hp.refl ih
    rw [parameters_of_spaced hne h, parameters_of_spaced hne hplain,
      List.forall₂_map_left_iff, List.forall₂_map_right_iff]
    refine List.Forall₂.flip (h.imp fun p q hq => ?_)
    exact hq.interchangeable.trans hq.refl.interchangeable.symm

/-! ## Line feeds -/

theorem newline_notMem_of_isReference (h : IsReference cs) : '\n' ∉ cs :=
  fun hn => absurd (h.mem_alphabet '\n' hn) (by decide)

theorem newline_mem_upper (h : '\n' ∈ cs) : '\n' ∈ Text.upper cs :=
  List.mem_flatMap.mpr ⟨'\n', h, by decide⟩

theorem Surrounded.newline_mem_iff (hr : IsReference (Text.upper cs)) (h : Surrounded cs ds) :
    '\n' ∈ Text.upper ds ↔ '\n' ∈ ds := by
  obtain ⟨before, after, rfl, hb, ha⟩ := h
  have hupper := newline_notMem_of_isReference hr
  have hcs : '\n' ∉ cs := fun hn => hupper (newline_mem_upper hn)
  rw [Text.upper_append, Text.upper_append, upper_separators hb, upper_separators ha]
  simp only [List.mem_append, hupper, hcs]

theorem SpacedParameter.newline_mem_iff (h : SpacedParameter p q) :
    '\n' ∈ Text.upper q ↔ '\n' ∈ q := by
  cases h with
  | reference hr hs => exact hs.newline_mem_iff hr
  | range hf hl hfs hls =>
    rw [upper_colon, List.mem_append, List.mem_append, List.mem_cons, List.mem_cons,
      hfs.newline_mem_iff hf, hls.newline_mem_iff hl]

theorem SpacedParameter.newline_notMem (h : SpacedParameter p q) : '\n' ∉ Text.upper p := by
  cases h with
  | reference hr _ => exact newline_notMem_of_isReference hr
  | range hf hl _ _ =>
    rw [upper_colon, List.mem_append, List.mem_cons]
    rintro (hn | hn | hn)
    · exact newline_notMem_of_isReference hf hn
    · exact absurd hn (by decide)
    · exact newline_notMem_of_isReference hl hn

theorem newline_mem_intercalate_iff :
    '\n' ∈ [','].intercalate texts ↔ ∃ text ∈ texts, '\n' ∈ text := by
  induction texts with
  | nil => simp
  | cons text texts ih =>
    cases texts with
    | nil => simp
    | cons text' texts =>
      have hcomma : '\n' ∉ [','] := by decide
      rw [List.intercalate_cons_cons, List.mem_append, List.mem_append, ih]
      simp only [hcomma, or_false, List.exists_mem_cons_iff]

theorem SpacedArguments.newline_mem_iff (h : SpacedArguments ps args) :
    '\n' ∈ Text.upper args ↔ '\n' ∈ args := by
  cases h with
  | none hblanks => rw [upper_separators hblanks]
  | list hne h =>
    clear hne
    rw [Text.upper_intercalate, newline_mem_intercalate_iff, newline_mem_intercalate_iff]
    induction h with
    | nil => simp
    | cons hp _ ih =>
      rw [List.map_cons, List.exists_mem_cons_iff, List.exists_mem_cons_iff, hp.newline_mem_iff, ih]

theorem SpacedArguments.newline_notMem (h : SpacedArguments ps args) :
    '\n' ∉ Text.upper ([','].intercalate ps) := by
  cases h with
  | none _ => exact List.not_mem_nil
  | list hne h =>
    clear hne
    rw [Text.upper_intercalate, newline_mem_intercalate_iff]
    induction h with
    | nil => simp
    | cons hp _ ih =>
      rw [List.map_cons, List.exists_mem_cons_iff]
      exact not_or.mpr ⟨hp.newline_notMem, ih⟩

/-- A text with a line feed in it is no call. -/
theorem Body.ofText_of_newline {text : List Char} (h : '\n' ∈ text) :
    Body.ofText text = .arithmetic text := by
  refine (Body.ofText_cases text).resolve_right ?_
  rintro ⟨name, args, hcall⟩
  obtain ⟨rfl, -, hchars, hline⟩ := Body.ofText_eq_call_iff.mp hcall
  have hname : '\n' ∉ name := fun hn => absurd (hchars _ hn) (by decide)
  simp [hname, hline] at h

/-- No reference starts at a name with a parenthesis behind it. -/
theorem scan?_of_opening (hname : ∀ c ∈ name, Column.isLetter c) (rest : List Char) :
    Reference.Spelling.scan? (name ++ '(' :: rest) = none := by
  have hmark : Reference.splitMark (name ++ '(' :: rest) = (false, name ++ '(' :: rest) := by
    cases name with
    | nil => rfl
    | cons c name =>
      refine Reference.splitMark_of_ne ?_ _
      rintro rfl
      exact absurd (hname '$' List.mem_cons_self) (by decide)
  have hdrop := dropWhile_append_stopsAt hname (stopsAt_cons (c := '(') (by decide) rest)
  have hopening : Reference.splitMark ('(' :: rest) = (false, '(' :: rest) := rfl
  simp only [Reference.Spelling.scan?, hmark, hdrop, hopening]
  simp [Numeric.isDigit]

/-- Arithmetic cannot start with the name of a function. -/
theorem arithmetic_of_opening (hne : name ≠ []) (hname : ∀ c ∈ name, Column.isLetter c)
    (rest : List Char) (view : View) (anchor : Position) :
    arithmetic (name ++ '(' :: rest) view anchor = 0 := by
  obtain ⟨c, letters, rfl⟩ := List.exists_cons_of_ne_nil hne
  have hpieces : pieces (c :: letters ++ '(' :: rest) =
      .char c :: pieces (letters ++ '(' :: rest) := by
    rw [List.cons_append, pieces_cons, ← List.cons_append, scan?_of_opening hname]
  have hnumber : numberOf? (substitute (c :: letters ++ '(' :: rest) view anchor) = none := by
    refine Option.eq_none_iff_forall_ne_some.mpr fun x hx => ?_
    obtain ⟨-, e, ⟨tokens, hw, -⟩, -⟩ := numberOf?_eq_some_iff_writes.mp hx
    have hstart := hw.stopsAt_of_forall (p := Column.isLetter)
      (List.all_iff_forall_prop.mp (by decide))
    have hc := hstart c (by rw [substitute, String.toList_ofList, hpieces]; rfl)
    rw [hname c List.mem_cons_self] at hc
    cases hc
  unfold arithmetic
  rw [hnumber]
  split <;> rfl

/-! ## Calls with blanks -/

/-- The formula that calls a function. -/
def written (name args : List Char) : String :=
  String.ofList ('=' :: (name ++ '(' :: (args ++ [')'])))

variable {b : Builtin}

theorem builtin_name (hb : b ∈ Builtin.all) :
    b.name.toList ≠ [] ∧ ∀ c ∈ b.name.toList, Column.isLetter c := by
  have hnames : Builtin.all.all fun b =>
      b.name.toList ≠ [] && b.name.toList.all Column.isLetter := by
    decide +kernel
  have hb := List.all_eq_true.mp hnames b hb
  rw [Bool.and_eq_true, decide_eq_true_iff, List.all_eq_true] at hb
  exact hb

theorem upper_written (hname : Text.upper name = b.name.toList) (args : List Char) :
    Text.upper (name ++ '(' :: (args ++ [')'])) =
      b.name.toList ++ '(' :: (Text.upper args ++ [')']) := by
  have hclosing : Text.upper [')'] = [')'] := rfl
  rw [Text.upper_append, Text.upper_cons_of_ascii (by decide), Text.upper_append, hname, hclosing]
  rfl

theorem body?_written (hname : Text.upper name = b.name.toList) (args : List Char) :
    body? (written name args) =
      some (.ofText (b.name.toList ++ '(' :: (Text.upper args ++ [')']))) := by
  unfold body? written
  rw [String.toList_ofList]
  simp only [upper_written hname]

theorem evaluate_of_newline (hb : b ∈ Builtin.all) (hname : Text.upper name = b.name.toList)
    (hline : '\n' ∈ Text.upper args) (view : View) (anchor : Position) :
    evaluate (written name args) view anchor = .number 0 := by
  obtain ⟨hne, hletters⟩ := builtin_name hb
  unfold evaluate evaluate?
  rw [body?_written hname, Body.ofText_of_newline (by simp [hline])]
  simp only [arithmetic_of_opening hne hletters]

theorem evaluate?_written (hb : b ∈ Builtin.all) (hname : Text.upper name = b.name.toList)
    (hline : '\n' ∉ Text.upper args) (view : View) (anchor : Position) :
    evaluate? (written name args) view anchor =
      call b.name.toList (parameters (Text.upper args)) view anchor := by
  obtain ⟨hne, hletters⟩ := builtin_name hb
  have hchars : ∀ c ∈ b.name.toList, isNameChar c := fun c hc => by
    simp [isNameChar, hletters c hc]
  unfold evaluate?
  rw [body?_written hname, Body.ofText_eq_call_iff.mpr ⟨rfl, hne, hchars, hline⟩]

/-- Blanks around the parameters of a call and around the colons of its ranges change nothing, as
long as none of them is a line feed. With a line feed the formula comes to zero. -/
theorem evaluate_spaced (hb : b ∈ Builtin.all) (hname : Text.upper name = b.name.toList)
    (h : SpacedArguments ps args) (view : View) (anchor : Position) :
    evaluate (written name args) view anchor =
      if '\n' ∈ args then .number 0
      else evaluate (written name ([','].intercalate ps)) view anchor := by
  split
  · rename_i hline
    exact evaluate_of_newline hb hname (h.newline_mem_iff.mpr hline) view anchor
  · rename_i hline
    have hline := mt h.newline_mem_iff.mp hline
    unfold evaluate
    rw [evaluate?_written hb hname hline, evaluate?_written hb hname h.newline_notMem,
      call_interchangeable h.interchangeable]

theorem isReference_of_isSome (h : (Reference.parse? cs).isSome) : IsReference cs :=
  Option.isSome_iff_exists.mp h

theorem spacedArguments_newline :
    SpacedArguments ["A1".toList, "B1".toList] "A1,\nB1".toList := by
  refine @SpacedArguments.list _ ["A1".toList, "\nB1".toList] (by decide)
    (.cons (.reference (isReference_of_isSome (by decide +kernel)) (.refl _))
      (.cons (.reference (isReference_of_isSome (by decide +kernel)) ?_) .nil))
  exact ⟨['\n'], [], rfl, by simp [isSeparator], by simp⟩

/-- Blanks of three kinds around a reference and in a range, and a line feed behind a comma. -/
theorem evaluate_spaced_of_threeByThree :
    ∃ b ∈ Builtin.all, Text.upper "Sum".toList = b.name.toList ∧
      SpacedArguments ["$b$2".toList, "a1:B2".toList] "\t$b$2 , a1 :\r B2 ".toList ∧
      SpacedArguments ["A1".toList, "B1".toList] "A1,\nB1".toList ∧
      evaluate (written "Sum".toList "\t$b$2 , a1 :\r B2 ".toList) threeByThree .origin =
        evaluate (written "Sum".toList "$b$2,a1:B2".toList) threeByThree .origin ∧
      evaluate (written "Sum".toList "A1,\nB1".toList) threeByThree .origin = .number 0 := by
  have hb : ⟨"SUM", .aggregate Builtin.sum, "Sum of numeric values"⟩ ∈ Builtin.all := .head _
  have hname : Text.upper "Sum".toList = "SUM".toList := by decide +kernel
  have hspaced : SpacedArguments ["$b$2".toList, "a1:B2".toList] "\t$b$2 , a1 :\r B2 ".toList := by
    refine @SpacedArguments.list _ ["\t$b$2 ".toList, " a1 :\r B2 ".toList] (by decide)
      (.cons (.reference (isReference_of_isSome (by decide +kernel)) ?_)
        (.cons (@SpacedParameter.range "a1".toList "B2".toList " a1 ".toList "\r B2 ".toList
          (isReference_of_isSome (by decide +kernel)) (isReference_of_isSome (by decide +kernel))
          ?_ ?_) .nil))
    · exact ⟨['\t'], [' '], rfl, by simp [isSeparator], by simp [isSeparator]⟩
    · exact ⟨[' '], [' '], rfl, by simp [isSeparator], by simp [isSeparator]⟩
    · exact ⟨['\r', ' '], [' '], rfl, by simp [isSeparator], by simp [isSeparator]⟩
  refine ⟨_, hb, hname, hspaced, spacedArguments_newline, ?_, ?_⟩
  · rw [evaluate_spaced hb hname hspaced, if_neg (by decide +kernel)]
    rfl
  · rw [evaluate_spaced hb hname spacedArguments_newline, if_pos (by decide +kernel)]

/-- A call is no longer one with a line feed behind a comma. -/
theorem not_evaluate_spaced : ¬ ∀ (b : Builtin) (name : List Char) (ps : List (List Char))
    (args : List Char) (view : View) (anchor : Position), b ∈ Builtin.all →
      Text.upper name = b.name.toList → SpacedArguments ps args → 1 ≤ view.rows → 1 ≤ view.cols →
        evaluate (written name args) view anchor =
          evaluate (written name ([','].intercalate ps)) view anchor := by
  intro h
  have hb : ⟨"SUM", .aggregate Builtin.sum, "Sum of numeric values"⟩ ∈ Builtin.all := .head _
  have hvalue := h _ "SUM".toList _ _ threeByThree .origin hb (by decide +kernel)
    spacedArguments_newline (by decide) (by decide)
  exact absurd hvalue (by decide +kernel)

end Spreadsheet.Formula
