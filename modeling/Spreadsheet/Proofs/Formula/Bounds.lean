import Spreadsheet.Proofs.Formula.Writing

/-!
# What the bounds on arithmetic depend on

Arithmetic is bounded in length and in nesting, and both bounds are on the text with the numbers of
the references written in. So the formula alone does not decide them. A number counts for its length
with as many bytes as its text has, and for its nesting with the parenthesis around it and, if it is
negative, with its sign. Nothing else about the values matters: longer texts only make the text
longer (`TooLong.mono`), more signs only make it nest deeper (`TooDeep.mono`), and never by more
than one level (`Nests.exists_le`).

For nesting, two views are compared by way of the tokens that have a single number for each
reference (`directTokens?`). `Stands` says what one of these tokens stands for in the two texts, and
what the grammar derives of them it derives of both texts, to the same depth but for the signs
(`Derives.alike`).
-/

namespace Spreadsheet.Formula

open Numeric Expression

variable {k : Nat} {ts ts' us ws : List Token} {text : List Char} {e : Expression} {view v w : View}
  {anchor : Position}

/-! ## Tokens in two views -/

/-- The tokens of a number, with a sign if it is negative. -/
def signedNumber (negative : Bool) (x : Float) : List Token :=
  if negative then [.minus, .number x] else [.number x]

def parenthesized (negative : Bool) (x : Float) : List Token :=
  .opening :: signedNumber negative x ++ [.closing]

/-- Whether a token stands for the two lists of tokens: for itself, or for two numbers in
parentheses, where the second has at most `k` signs more than the first. -/
inductive Stands (k : Nat) : Token → List Token → List Token → Prop where
  | same (t : Token) : Stands k t [t] [t]
  | number (x y z : Float) {negative negative' : Bool} :
      negative'.toNat ≤ negative.toNat + k →
        Stands k (.number x) (parenthesized negative y) (parenthesized negative' z)

/-- Whether the tokens of a list stand for two lists, one after the other. -/
inductive Alike (k : Nat) : List Token → List Token → List Token → Prop where
  | nil : Alike k [] [] []
  | cons {t before before' ts us ws} : Stands k t before before' → Alike k ts us ws →
      Alike k (t :: ts) (before ++ us) (before' ++ ws)

theorem Alike.refl (ts : List Token) : Alike k ts ts ts := by
  induction ts with
  | nil => exact .nil
  | cons t ts ih => exact .cons (.same t) ih

theorem Alike.append {us' ws' : List Token} (h : Alike k ts us ws) (h' : Alike k ts' us' ws') :
    Alike k (ts ++ ts') (us ++ us') (ws ++ ws') := by
  induction h with
  | nil => exact h'
  | cons hb _ ih =>
    rw [List.append_assoc, List.append_assoc]
    exact .cons hb ih

theorem Alike.of_append (ts : List Token) : ∀ {us ws}, Alike k (ts ++ ts') us ws →
    ∃ us₁ us₂ ws₁ ws₂, us = us₁ ++ us₂ ∧ ws = ws₁ ++ ws₂ ∧ Alike k ts us₁ ws₁ ∧
      Alike k ts' us₂ ws₂ := by
  induction ts with
  | nil =>
    intro us ws h
    exact ⟨[], us, [], ws, rfl, rfl, .nil, h⟩
  | cons t ts ih =>
    intro us ws h
    cases h with
    | cons hb h =>
      obtain ⟨us₁, us₂, ws₁, ws₂, rfl, rfl, h₁, h₂⟩ := ih h
      exact ⟨_, us₂, _, ws₂, (List.append_assoc ..).symm, (List.append_assoc ..).symm,
        .cons hb h₁, h₂⟩

/-- A token that is no number stands for itself. -/
theorem Alike.of_cons {t : Token} (ht : ∀ x, t ≠ .number x) (h : Alike k (t :: ts) us ws) :
    ∃ us' ws', us = t :: us' ∧ ws = t :: ws' ∧ Alike k ts us' ws' := by
  cases h with
  | cons hb h =>
    cases hb with
    | same => exact ⟨_, _, rfl, rfl, h⟩
    | number x => exact absurd rfl (ht x)

theorem Alike.of_append_cons {before after : List Token} {t : Token} (ht : ∀ x, t ≠ .number x)
    (h : Alike k (before ++ t :: after) us ws) :
    ∃ us₁ us₂ ws₁ ws₂, us = us₁ ++ t :: us₂ ∧ ws = ws₁ ++ t :: ws₂ ∧ Alike k before us₁ ws₁ ∧
      Alike k after us₂ ws₂ := by
  obtain ⟨us₁, us₂, ws₁, ws₂, rfl, rfl, hbefore, hrest⟩ := of_append before h
  obtain ⟨us₂, ws₂, rfl, rfl, hafter⟩ := hrest.of_cons ht
  exact ⟨us₁, us₂, ws₁, ws₂, rfl, rfl, hbefore, hafter⟩

/-! ## Nesting in two views -/

theorem derives_parenthesized (negative : Bool) (x : Float) :
    ∃ e, Derives .operand (parenthesized negative x) e ∧ e.depth = negative.toNat + 1 := by
  cases negative with
  | false => exact ⟨_, .group (.term (.factor (.number x))), rfl⟩
  | true => exact ⟨_, .group (.term (.factor (@Derives.signed .minus true _ _ rfl (.number x)))), rfl⟩

theorem Expression.Derives.alike {phrase : Phrase} (h : Derives phrase ts e) :
    ∀ {us ws}, Alike k ts us ws → ∃ d d', Derives phrase us d ∧ Derives phrase ws d' ∧
      d'.depth ≤ d.depth + k := by
  induction h with
  | number x =>
    intro us ws hs
    cases hs with
    | cons hb hs =>
      cases hs
      rw [List.append_nil, List.append_nil]
      cases hb with
      | same => exact ⟨_, _, .number x, .number x, Nat.zero_le _⟩
      | @number _ y z negative negative' hk =>
        obtain ⟨d, hd, depth⟩ := derives_parenthesized negative y
        obtain ⟨d', hd', depth'⟩ := derives_parenthesized negative' z
        exact ⟨d, d', hd, hd', by omega⟩
  | signed hn _ ih =>
    intro us ws hs
    obtain ⟨us, ws, rfl, rfl, hi⟩ := hs.of_cons (by rintro x rfl; cases hn)
    obtain ⟨d, d', hd, hd', depth⟩ := ih hi
    exact ⟨_, _, .signed hn hd, .signed hn hd', by simp only [Expression.depth]; omega⟩
  | group _ ih =>
    intro us ws hs
    obtain ⟨us, ws, rfl, rfl, hrest⟩ := hs.of_cons (by simp)
    obtain ⟨us₁, us₂, ws₁, ws₂, rfl, rfl, hi, hnil⟩ := hrest.of_append_cons (by simp)
    cases hnil
    obtain ⟨d, d', hd, hd', depth⟩ := ih hi
    exact ⟨_, _, .group hd, .group hd', by simp only [Expression.depth]; omega⟩
  | factor _ ih =>
    intro us ws hs
    obtain ⟨d, d', hd, hd', depth⟩ := ih hs
    exact ⟨d, d', .factor hd, .factor hd', depth⟩
  | product _ ho _ ihl ihr =>
    intro us ws hs
    obtain ⟨us₁, us₂, ws₁, ws₂, rfl, rfl, hl, hr⟩ :=
      hs.of_append_cons (by rintro x rfl; cases ho)
    obtain ⟨l, l', hl, hl', depthl⟩ := ihl hl
    obtain ⟨r, r', hr, hr', depthr⟩ := ihr hr
    exact ⟨_, _, .product hl ho hr, .product hl' ho hr', by simp only [Expression.depth]; omega⟩
  | term _ ih =>
    intro us ws hs
    obtain ⟨d, d', hd, hd', depth⟩ := ih hs
    exact ⟨d, d', .term hd, .term hd', depth⟩
  | sum _ ho _ ihl ihr =>
    intro us ws hs
    obtain ⟨us₁, us₂, ws₁, ws₂, rfl, rfl, hl, hr⟩ :=
      hs.of_append_cons (by rintro x rfl; cases ho)
    obtain ⟨l, l', hl, hl', depthl⟩ := ihl hl
    obtain ⟨r, r', hr, hr', depthr⟩ := ihr hr
    exact ⟨_, _, .sum hl ho hr, .sum hl' ho hr', by simp only [Expression.depth]; omega⟩

/-! ## The texts in two views -/

theorem tokens?_signedNumber {n : Numeral} (h : WritesNumeral text n) (negative : Bool) :
    tokens? ((if negative then ['-'] else []) ++ text) = some (signedNumber negative n.value) := by
  have ht := tokens?_numeral h
  cases negative with
  | false => exact ht
  | true =>
    have hminus := tokens?_token (c := '-') rfl text
    rw [ht] at hminus
    exact hminus

/-- The tokens of a text that has the number of a reference written into it. -/
theorem exists_tokens?_fill (view : View) (anchor : Position) (spelling : Reference.Spelling) :
    ∃ x, ∀ gap after, tokens? (gap ++ ((Piece.reference spelling).fill view anchor ++ after)) =
      (tokens? gap).bind fun before => (tokens? after).map fun us =>
        before ++ (parenthesized (isNegative (referencedNumber view anchor spelling)) x ++ us) := by
  have hx := isFinite_referencedNumber view anchor spelling
  obtain ⟨numeral, hrender, whole, fraction, tail, k, hw, rfl⟩ := exists_writes_render plain hx
  have ht := tokens?_signedNumber (writesNumeral_of_writtenAs hw)
    (isNegative (referencedNumber view anchor spelling))
  refine ⟨Numeral.value ⟨whole, fraction, k⟩, fun gap after => ?_⟩
  have hfill : (Piece.reference spelling).fill view anchor ++ after =
      '(' :: (plain.render (referencedNumber view anchor spelling)).toList ++ ')' :: after := by
    simp [Piece.fill]
  rw [hfill, hrender, List.cons_append, tokens?_append endsNumber_opening, ← List.cons_append,
    tokens?_parenthesized ht]
  cases tokens? after with
  | none => rfl
  | some us =>
    simp only [parenthesized, Option.map_some, List.append_assoc, List.cons_append,
      List.nil_append]

/-- If the text has tokens in one view, it has tokens in the other. -/
theorem alike_tokens? : ∀ {pieces : List Piece},
    (∀ s, .reference s ∈ pieces → (isNegative (referencedNumber w anchor s)).toNat ≤
      (isNegative (referencedNumber v anchor s)).toNat + k) →
    ∀ {gap ts}, directTokens? v anchor gap pieces = some ts →
      ∃ us ws, tokens? (gap ++ pieces.flatMap (·.fill v anchor)) = some us ∧
        tokens? (gap ++ pieces.flatMap (·.fill w anchor)) = some ws ∧ Alike k ts us ws := by
  intro pieces
  induction pieces with
  | nil =>
    intro _ gap ts h
    rw [List.flatMap_nil, List.flatMap_nil, List.append_nil]
    exact ⟨ts, ts, h, h, .refl ts⟩
  | cons piece pieces ih =>
    intro hk gap ts h
    have hrest := fun s hs => hk s (List.mem_cons_of_mem _ hs)
    cases piece with
    | char c =>
      have hi := ih hrest h
      simp only [List.append_assoc] at hi
      exact hi
    | reference s =>
      obtain ⟨before, hbefore, h⟩ := Option.bind_eq_some_iff.mp h
      obtain ⟨after, hafter, rfl⟩ := Option.map_eq_some_iff.mp h
      obtain ⟨us, ws, hus, hws, hs⟩ := ih hrest hafter
      rw [List.nil_append] at hus hws
      obtain ⟨x, hx⟩ := exists_tokens?_fill v anchor s
      obtain ⟨y, hy⟩ := exists_tokens?_fill w anchor s
      refine ⟨_, _, ?_, ?_, (Alike.refl before).append
        (.cons (.number _ x y (hk s List.mem_cons_self)) hs)⟩
      · rw [List.flatMap_cons, hx, hbefore, hus]
        rfl
      · rw [List.flatMap_cons, hy, hbefore, hws]
        rfl

/-! ## The bounds -/

/-- Whether arithmetic is too long, before the numbers are written in or after. -/
def TooLong (text : List Char) (view : View) (anchor : Position) : Prop :=
  maxLength < (String.ofList text).utf8ByteSize ∨
    maxLength < (substitute text view anchor).utf8ByteSize

/-- Whether arithmetic nests `n` deep with the numbers written in. -/
def Nests (text : List Char) (view : View) (anchor : Position) (n : Nat) : Prop :=
  ∃ e, Writes (substitute text view anchor).toList e ∧ e.depth = n

/-- Whether arithmetic nests too deep. -/
def TooDeep (text : List Char) (view : View) (anchor : Position) : Prop :=
  ∃ n, Nests text view anchor n ∧ maxDepth < n

/-- The length in bytes of the text that is written for a reference. -/
def numberLength (view : View) (anchor : Position) (spelling : Reference.Spelling) : Nat :=
  (plain.render (referencedNumber view anchor spelling)).utf8ByteSize

theorem Nests.unique {m n : Nat} (h : Nests text view anchor m) (h' : Nests text view anchor n) :
    m = n := by
  obtain ⟨e, hw, rfl⟩ := h
  obtain ⟨e', hw', rfl⟩ := h'
  rw [hw.unique hw']

theorem not_tooDeep (hw : Writes (substitute text view anchor).toList e)
    (depth : e.depth ≤ maxDepth) : ¬ TooDeep text view anchor := by
  rintro ⟨n, hn, deep⟩
  obtain rfl := hn.unique ⟨e, hw, rfl⟩
  omega

/-- What is an expression with the numbers of one view is one with those of the other. It nests as
deep there, but for the signs. -/
theorem Nests.exists_le_add (hk : ∀ s, .reference s ∈ pieces text →
      (isNegative (referencedNumber w anchor s)).toNat ≤
        (isNegative (referencedNumber v anchor s)).toNat + k)
    {n : Nat} (h : Nests text v anchor n) : ∃ m, Nests text w anchor m ∧ m ≤ n + k := by
  obtain ⟨e, hw, rfl⟩ := h
  obtain ⟨us, hus, hd⟩ := writes_iff.mp hw
  -- The tokens with a number for each reference are an expression, and so what they stand for is.
  obtain ⟨ts, d, hts, hdirect, -⟩ := exists_direct hus hd
  obtain ⟨us', ws, hus', hws, halike⟩ := alike_tokens? hk hts
  have htext : ∀ view, [] ++ (pieces text).flatMap (·.fill view anchor) =
      (substitute text view anchor).toList := by
    intro view
    rw [List.nil_append, substitute, String.toList_ofList]
  rw [htext] at hus' hws
  obtain rfl := Option.some.inj (hus.symm.trans hus')
  obtain ⟨e', e'', hd', hd'', depth⟩ := hdirect.alike halike
  obtain rfl := hd.unique hd'
  exact ⟨e''.depth, ⟨e'', writes_iff.mpr ⟨ws, hws, hd''⟩, rfl⟩, depth⟩

/-- A sign makes arithmetic nest at most one level deeper. -/
theorem Nests.exists_le (w : View) {n : Nat} (h : Nests text v anchor n) :
    ∃ m, Nests text w anchor m ∧ m ≤ n + 1 := by
  refine h.exists_le_add fun s _ => ?_
  have hone := Bool.toNat_le (isNegative (referencedNumber w anchor s))
  omega

/-- If arithmetic nests too deep, it does with more signs as well. -/
theorem TooDeep.mono (hsigns : ∀ s, .reference s ∈ pieces text →
      isNegative (referencedNumber v anchor s) → isNegative (referencedNumber w anchor s))
    (h : TooDeep text v anchor) : TooDeep text w anchor := by
  obtain ⟨n, hn, deep⟩ := h
  obtain ⟨m, hm, -⟩ := hn.exists_le w
  have hk : ∀ s, .reference s ∈ pieces text →
      (isNegative (referencedNumber v anchor s)).toNat ≤
        (isNegative (referencedNumber w anchor s)).toNat + 0 :=
    fun s hs => Bool.toNat_le_toNat (hsigns s hs)
  obtain ⟨n', hn', hle⟩ := hm.exists_le_add hk
  obtain rfl := hn.unique hn'
  exact ⟨m, hm, by omega⟩

/-- The length in bytes of the text that a piece is replaced by. -/
def Piece.length (view : View) (anchor : Position) : Piece → Nat
  | .char c => c.utf8Size
  | .reference spelling => numberLength view anchor spelling + 2

theorem utf8ByteSize_substitute (text : List Char) (view : View) (anchor : Position) :
    (substitute text view anchor).utf8ByteSize =
      ((pieces text).map (Piece.length view anchor)).sum := by
  rw [substitute, String.utf8ByteSize_ofList]
  induction pieces text with
  | nil => rfl
  | cons piece pieces ih =>
    rw [List.flatMap_cons, String.utf8Len_append, ih, List.map_cons, List.sum_cons]
    cases piece with
    | char c => rw [Piece.fill, Piece.length, String.utf8Len_cons, String.utf8Len_nil, Nat.zero_add]
    | reference spelling =>
      have hopening : '('.utf8Size = 1 := by decide
      have hclosing : String.utf8Len [')'] = 1 := by decide
      rw [Piece.fill, List.cons_append, String.utf8Len_cons, String.utf8Len_append,
        String.utf8Len_toList, hopening, hclosing, Piece.length, numberLength]

/-- If arithmetic is too long, it is with longer numbers as well. -/
theorem TooLong.mono
    (hlengths : ∀ s, .reference s ∈ pieces text → numberLength v anchor s ≤ numberLength w anchor s)
    (h : TooLong text v anchor) : TooLong text w anchor := by
  refine h.imp_right fun long => Nat.lt_of_lt_of_le long ?_
  rw [utf8ByteSize_substitute, utf8ByteSize_substitute]
  refine List.sum_le_sum fun piece hp => ?_
  cases piece with
  | char c => exact Nat.le_refl _
  | reference spelling => exact Nat.add_le_add_right (hlengths spelling hp) 2

/-! ## What becomes of arithmetic beyond the bounds -/

theorem arithmetic_eq_zero (h : TooLong text view anchor ∨ TooDeep text view anchor) :
    arithmetic text view anchor = 0 := by
  unfold arithmetic
  split
  · rename_i length
    have hnone : numberOf? (substitute text view anchor) = none := by
      refine Option.eq_none_iff_forall_ne_some.mpr fun x hx => ?_
      obtain ⟨length', e, hw, depth, -⟩ := numberOf?_eq_some_iff_writes.mp hx
      rcases h with (long | long) | deep
      · omega
      · omega
      · exact not_tooDeep hw depth deep
    rw [hnone]
    rfl
  · rfl

theorem arithmetic_eq_value (long : ¬ TooLong text view anchor) (deep : ¬ TooDeep text view anchor)
    (hw : Writes (substitute text view anchor).toList e) (finite : e.value.isFinite) :
    arithmetic text view anchor = e.value := by
  obtain ⟨length, length'⟩ := not_or.mp long
  have depth : e.depth ≤ maxDepth := by
    by_contra hdeep
    exact deep ⟨_, ⟨e, hw, rfl⟩, Nat.not_le.mp hdeep⟩
  unfold arithmetic
  rw [if_pos (Nat.not_lt.mp length), numberOf?_eq_some_iff_writes.mpr
    ⟨Nat.not_lt.mp length', e, hw, depth, finite, rfl⟩]
  rfl

/-- Of the cells, the bounds on arithmetic depend on nothing but the lengths and the signs of the
numbers as they are written: longer ones only make it too long, and signs only make it nest too
deep, by one level. Beyond the bounds it comes to zero, and within them it has its value. -/
theorem bounds_depend_on_lengths_and_signs (text : List Char) (v w : View) (anchor : Position) :
    ((∀ s, .reference s ∈ pieces text → numberLength v anchor s ≤ numberLength w anchor s) →
      TooLong text v anchor → TooLong text w anchor) ∧
    ((∀ s, .reference s ∈ pieces text →
        isNegative (referencedNumber v anchor s) → isNegative (referencedNumber w anchor s)) →
      TooDeep text v anchor → TooDeep text w anchor) ∧
    (∀ n, Nests text v anchor n → ∃ m, Nests text w anchor m ∧ m ≤ n + 1) ∧
    (TooLong text v anchor ∨ TooDeep text v anchor → arithmetic text v anchor = 0) ∧
    ∀ e, ¬ TooLong text v anchor → ¬ TooDeep text v anchor →
      Writes (substitute text v anchor).toList e → e.value.isFinite →
        arithmetic text v anchor = e.value :=
  ⟨TooLong.mono, TooDeep.mono, fun _ h => h.exists_le w, arithmetic_eq_zero,
    fun _ => arithmetic_eq_value⟩

/-- A sheet with one number. -/
def single (x : Float) : View := ⟨1, 1, fun _ => .number x⟩

/-- A reference in 63 parentheses. -/
def nested : List Char := List.replicate 63 '(' ++ "A1".toList ++ List.replicate 63 ')'

/-- A sum of 28 products with a reference. -/
def repeated : List Char := (List.replicate 28 "A1*0+".toList).flatten ++ ['1']

theorem nests_of_depth {n : Nat}
    (h : ((tokens? (substitute text view anchor).toList).bind fun tokens =>
      (Expression.sum (operand n) tokens).map fun (e, rest) => (e.depth, rest)) = some (n, [])) :
    Nests text view anchor n := by
  obtain ⟨tokens, ht, h⟩ := Option.bind_eq_some_iff.mp h
  obtain ⟨⟨e, rest⟩, hread, h⟩ := Option.map_eq_some_iff.mp h
  obtain ⟨depth, rfl⟩ := Prod.mk.inj h
  exact ⟨e, writes_iff.mpr ⟨tokens, ht, (sum_operand_eq_some_iff.mp hread).1⟩, depth⟩

theorem tooDeep_nested : TooDeep nested (single (-1)) .origin :=
  ⟨65, nests_of_depth (by decide +kernel), by decide⟩

/-- The spelling of the reference to the first cell. -/
def firstCell : Reference.Spelling := ⟨false, ['A'], false, ['1']⟩

theorem eq_firstCell (h : (pieces text).all fun piece =>
      match piece with
      | .char _ => true
      | .reference s => s = firstCell) : ∀ s, .reference s ∈ pieces text → s = firstCell :=
  fun _ hs => of_decide_eq_true (List.all_eq_true.mp h _ hs)

theorem tooLong_repeated : TooLong repeated (single 1e300) .origin := by
  have hlength : numberLength (single 1e300) .origin firstCell = 301 := by decide +kernel
  have hpieces : pieces repeated =
      (List.replicate 28 (.reference firstCell :: "*0+".toList.map Piece.char)).flatten ++
        [.char '1'] := by
    decide +kernel
  have hsum : ((pieces repeated).map (Piece.length (single 1e300) .origin)).sum = 8569 := by
    rw [hpieces, List.map_append, List.map_flatten, List.map_replicate, List.sum_append,
      List.sum_flatten, List.map_replicate, List.sum_replicate, List.map_cons, Piece.length,
      hlength]
    decide
  refine .inr ?_
  rw [utf8ByteSize_substitute, hsum]
  decide

theorem not_tooLong_nested : ¬ TooLong nested (single 2.5) .origin :=
  not_or.mpr ⟨by decide +kernel, by decide +kernel⟩

theorem exists_writes_nested : ∃ e, Writes (substitute nested (single 2.5) .origin).toList e ∧
    e.depth ≤ maxDepth ∧ e.value.isFinite := by
  have hsome : (numberOf? (substitute nested (single 2.5) .origin)).isSome := by decide +kernel
  obtain ⟨x, hx⟩ := Option.isSome_iff_exists.mp hsome
  obtain ⟨-, e, hw, depth, finite, -⟩ := numberOf?_eq_some_iff_writes.mp hx
  exact ⟨e, hw, depth, finite⟩

/-- Large numbers many times, and a number in as many parentheses as there can be. -/
theorem bounds_depend_on_lengths_and_signs_of_single :
    (TooLong repeated (single 1e300) .origin ∧ TooLong repeated (single (-1e301)) .origin) ∧
      (TooDeep nested (single (-1)) .origin ∧ TooDeep nested (single (-2.5)) .origin) ∧
      arithmetic nested (single (-1)) .origin = 0 ∧
      ∃ e, Writes (substitute nested (single 2.5) .origin).toList e ∧
        (∃ m, Nests nested (single (-2.5)) .origin m ∧ m ≤ e.depth + 1) ∧
        arithmetic nested (single 2.5) .origin = e.value := by
  have hnested := fun v => bounds_depend_on_lengths_and_signs nested v (single (-2.5)) .origin
  refine ⟨⟨tooLong_repeated, ?_⟩, ⟨tooDeep_nested, ?_⟩, ?_, ?_⟩
  · refine (bounds_depend_on_lengths_and_signs repeated _ (single (-1e301)) _).1 ?_ tooLong_repeated
    intro s hs
    obtain rfl := eq_firstCell (by decide +kernel) s hs
    decide +kernel
  · refine (hnested _).2.1 ?_ tooDeep_nested
    intro s hs _
    obtain rfl := eq_firstCell (by decide +kernel) s hs
    decide +kernel
  · exact (hnested _).2.2.2.1 (.inr tooDeep_nested)
  · obtain ⟨e, hw, depth, finite⟩ := exists_writes_nested
    exact ⟨e, hw, (hnested _).2.2.1 _ ⟨e, hw, rfl⟩,
      (hnested _).2.2.2.2 e not_tooLong_nested (not_tooDeep hw depth) hw finite⟩

/-- The sign of a number decides whether a reference can stand in 63 parentheses. -/
theorem not_bounds_by_formula : ¬ ∀ (text : List Char) (v w : View) (anchor : Position),
    v.rows = w.rows → v.cols = w.cols →
      (TooLong text v anchor ∨ TooDeep text v anchor ↔
        TooLong text w anchor ∨ TooDeep text w anchor) := by
  intro h
  obtain ⟨e, hw, depth, -⟩ := exists_writes_nested
  rcases (h nested (single 2.5) (single (-1)) .origin rfl rfl).mpr (.inr tooDeep_nested) with
    long | deep
  · exact not_tooLong_nested long
  · exact not_tooDeep hw depth deep

end Spreadsheet.Formula
