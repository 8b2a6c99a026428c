import Spreadsheet.Formula.Substitution
import Spreadsheet.Proofs.Formula.Lexing
import Spreadsheet.Proofs.Numeric.ReadBack

/-!
# Splicing numbers into arithmetic

Arithmetic with references is evaluated by writing their numbers into the text and reading the text
again. `directTokens?` leaves the text alone: it cuts the stretches between the references into
tokens and puts one number token for each reference between them. Where the text with the numbers
written in is not too long and does not nest too deep, both ways have the same value
(`arithmetic_isDirectValue`).

A spliced number is in parentheses and may have a sign, so it takes up to four tokens where the
direct way has one; it reads back, so they have the same value. `Spliced` relates such lists of
tokens. What the grammar derives on the direct side it derives on the spliced side
(`Derives.splice`), and what the reader reads on the spliced side it reads on the direct side
(`sum_transfers`), each time with the same value.
-/

namespace Spreadsheet.Formula

open Expression

/-! ## The tokens without splicing -/

/-- The tokens of an arithmetic text in which every reference is a number of its own; `gap` is the
stretch of text since the last reference. -/
def directTokens? (view : View) (anchor : Position) (gap : List Char) :
    List Piece → Option (List Token)
  | [] => tokens? gap
  | .char c :: pieces => directTokens? view anchor (gap ++ [c]) pieces
  | .reference spelling :: pieces =>
    (tokens? gap).bind fun before =>
      (directTokens? view anchor [] pieces).map fun after =>
        before ++ .number (referencedNumber view anchor spelling) :: after

/-- Whether an arithmetic text has an expression with a finite value when its references are
numbers. -/
def HasDirectValue (text : List Char) (view : View) (anchor : Position) (x : Float) : Prop :=
  ∃ tokens e, directTokens? view anchor [] (pieces text) = some tokens ∧ Derives .sum tokens e ∧
    e.value.isFinite ∧ x = e.value

/-! ## Spliced tokens -/

/-- Lists of tokens that are the same but for numbers of the first that stand in parentheses, and
perhaps behind a sign, in the second. -/
inductive Spliced : List Token → List Token → Prop where
  | nil : Spliced [] []
  | token (t : Token) {ts us} : Spliced ts us → Spliced (t :: ts) (t :: us)
  | plain (x : Float) {ts us} : Spliced ts us →
      Spliced (.number x :: ts) (.opening :: .number x :: .closing :: us)
  | signed {sign negative} (y : Float) {ts us} : Token.negative? sign = some negative →
      Spliced ts us → Spliced (.number (Numeric.withSign negative y) :: ts)
        (.opening :: sign :: .number y :: .closing :: us)

namespace Spliced

variable {ts ts' us us' : List Token}

theorem refl (ts : List Token) : Spliced ts ts := by
  induction ts with
  | nil => exact .nil
  | cons t ts ih => exact .token t ih

theorem append (h : Spliced ts us) (h' : Spliced ts' us') : Spliced (ts ++ ts') (us ++ us') := by
  induction h with
  | nil => exact h'
  | token t _ ih => exact .token t ih
  | plain x _ ih => exact .plain x ih
  | signed y hs _ ih => exact .signed y hs ih

/-- Where the first list is cut, the second can be cut as well. -/
theorem of_append : ∀ (ts : List Token) {us : List Token}, Spliced (ts ++ ts') us →
    ∃ us₁ us₂, us = us₁ ++ us₂ ∧ Spliced ts us₁ ∧ Spliced ts' us₂ := by
  intro ts
  induction ts with
  | nil => intro us h; exact ⟨[], us, rfl, .nil, h⟩
  | cons t ts ih =>
    intro us h
    cases h with
    | token t h =>
      obtain ⟨us₁, us₂, rfl, h₁, h₂⟩ := ih h
      exact ⟨_, us₂, rfl, .token t h₁, h₂⟩
    | plain x h =>
      obtain ⟨us₁, us₂, rfl, h₁, h₂⟩ := ih h
      exact ⟨.opening :: .number x :: .closing :: us₁, us₂, rfl, .plain x h₁, h₂⟩
    | @signed sign _ y _ _ hs h =>
      obtain ⟨us₁, us₂, rfl, h₁, h₂⟩ := ih h
      exact ⟨.opening :: sign :: .number y :: .closing :: us₁, us₂, rfl, .signed y hs h₁, h₂⟩

/-- A token that is no number is not spliced. -/
theorem of_cons {t : Token} (ht : ∀ x, t ≠ .number x) (h : Spliced (t :: ts) us) :
    ∃ us', us = t :: us' ∧ Spliced ts us' := by
  cases h with
  | token _ h => exact ⟨_, rfl, h⟩
  | plain x _ => exact absurd rfl (ht _)
  | signed y _ _ => exact absurd rfl (ht _)

theorem of_append_cons {before after : List Token} {t : Token} (ht : ∀ x, t ≠ .number x)
    (h : Spliced (before ++ t :: after) us) :
    ∃ us₁ us₂, us = us₁ ++ t :: us₂ ∧ Spliced before us₁ ∧ Spliced after us₂ := by
  obtain ⟨us₁, us₂, rfl, hbefore, hrest⟩ := of_append before h
  obtain ⟨us₂, rfl, hafter⟩ := hrest.of_cons ht
  exact ⟨us₁, us₂, rfl, hbefore, hafter⟩

/-- Only an opening parenthesis starts a spliced number. -/
theorem of_cons_right {u : Token} (hu : u ≠ .opening) (h : Spliced ts (u :: us)) :
    ∃ ts', ts = u :: ts' ∧ Spliced ts' us := by
  cases h with
  | token _ h => exact ⟨_, rfl, h⟩
  | plain x _ => exact absurd rfl hu
  | signed y _ _ => exact absurd rfl hu

end Spliced

/-! ## From the direct side to the spliced side -/

theorem Expression.Derives.splice {phrase : Phrase} {ts : List Token} {e : Expression}
    (h : Derives phrase ts e) : ∀ {us : List Token}, Spliced ts us →
      ∃ e', Derives phrase us e' ∧ e'.value = e.value := by
  induction h with
  | number x =>
    intro us hs
    cases hs with
    | token _ hs =>
      cases hs
      exact ⟨_, .number x, rfl⟩
    | plain _ hs =>
      cases hs
      exact ⟨_, .group (.term (.factor (.number x))), rfl⟩
    | signed y hn hs =>
      cases hs
      exact ⟨_, .group (.term (.factor (.signed hn (.number y)))), rfl⟩
  | signed hn _ ih =>
    intro us hs
    obtain ⟨us, rfl, hs'⟩ := hs.of_cons (by rintro x rfl; cases hn)
    obtain ⟨e', hd, hv⟩ := ih hs'
    exact ⟨_, .signed hn hd, by simp only [value, hv]⟩
  | group _ ih =>
    intro us hs
    obtain ⟨us, rfl, hs'⟩ := hs.of_cons (by simp)
    obtain ⟨us₁, us₂, rfl, hs₁, hs₂⟩ := hs'.of_append_cons (by simp)
    cases hs₂
    obtain ⟨e', hd, hv⟩ := ih hs₁
    exact ⟨_, .group hd, hv⟩
  | factor _ ih =>
    intro us hs
    obtain ⟨e', hd, hv⟩ := ih hs
    exact ⟨e', .factor hd, hv⟩
  | product _ ho _ ihl ihr =>
    intro us hs
    obtain ⟨us₁, us₂, rfl, hs₁, hs₂⟩ := hs.of_append_cons (by rintro x rfl; cases ho)
    obtain ⟨l, hl, hlv⟩ := ihl hs₁
    obtain ⟨r, hr, hrv⟩ := ihr hs₂
    exact ⟨_, .product hl ho hr, by simp only [value, hlv, hrv]⟩
  | term _ ih =>
    intro us hs
    obtain ⟨e', hd, hv⟩ := ih hs
    exact ⟨e', .term hd, hv⟩
  | sum _ ho _ ihl ihr =>
    intro us hs
    obtain ⟨us₁, us₂, rfl, hs₁, hs₂⟩ := hs.of_append_cons (by rintro x rfl; cases ho)
    obtain ⟨l, hl, hlv⟩ := ihl hs₁
    obtain ⟨r, hr, hrv⟩ := ihr hs₂
    exact ⟨_, .sum hl ho hr, by simp only [value, hlv, hrv]⟩

/-! ## From the spliced side to the direct side -/

/-- Whether what a reader reads of spliced tokens it also reads of the direct ones, with the same
value and up to the same place. -/
def Transfers (read : Reader) : Prop :=
  ∀ {ts us e rest}, Spliced ts us → read us = some (e, rest) →
    ∃ e' rest', read ts = some (e', rest') ∧ Spliced rest' rest ∧ e'.value = e.value

section Chains

variable {operator? : Token → Option Operator} {read : Reader} {e : Expression}
  {rest : List Token}

/-- Whether neither a number nor a parenthesis is an operator. -/
def NoOperand (operator? : Token → Option Operator) : Prop :=
  operator? .opening = none ∧ ∀ x, operator? (.number x) = none

theorem chainFrom_transfers (hr : Transfers read) (ho : NoOperand operator?)
    {P : List Token → Expression → Prop} (hc : ReadsOnly read P) :
    ∀ (fuel fuel' : Nat) (left left' : Expression) (ts us : List Token),
      us.length ≤ fuel → ts.length ≤ fuel' → left'.value = left.value → Spliced ts us →
        chainFrom operator? read fuel left us = some (e, rest) →
          ∃ e' rest', chainFrom operator? read fuel' left' ts = some (e', rest') ∧
            Spliced rest' rest ∧ e'.value = e.value := by
  intro fuel
  induction fuel with
  | zero =>
    intro fuel' left left' ts us hf hf' hv hs h
    obtain rfl := List.eq_nil_of_length_eq_zero (Nat.le_zero.mp hf)
    cases hs
    simp only [chainFrom, Option.some.injEq, Prod.mk.injEq] at h
    obtain ⟨rfl, rfl⟩ := h
    exact ⟨left', [], chainFrom_of_ends (by simp [Ends]) read fuel' left', .nil, hv⟩
  | succ fuel ih =>
    intro fuel' left left' ts us hf hf' hv hs h
    -- Where the chain ends on the spliced side, it ends on the direct side.
    have stop : Ends operator? ts → Ends operator? us →
        ∃ e' rest', chainFrom operator? read fuel' left' ts = some (e', rest') ∧
          Spliced rest' rest ∧ e'.value = e.value := by
      intro hts hus
      rw [chainFrom_of_ends hus, Option.some.injEq, Prod.mk.injEq] at h
      obtain ⟨rfl, rfl⟩ := h
      exact ⟨left', ts, chainFrom_of_ends hts read fuel' left', hs, hv⟩
    cases hs with
    | nil => exact stop (by simp [Ends]) (by simp [Ends])
    | plain x hs => exact stop (by simp [Ends, ho.2]) (by simp [Ends, ho.1])
    | signed y hn hs => exact stop (by simp [Ends, ho.2]) (by simp [Ends, ho.1])
    | @token t ts us hs =>
      cases hop : operator? t with
      | none => exact stop (by simp [Ends, hop]) (by simp [Ends, hop])
      | some operator =>
        simp only [chainFrom, hop] at h
        split at h
        · cases h
        · rename_i right after hright
          obtain ⟨right', after', hright', hs', hv'⟩ := hr hs hright
          obtain ⟨fuel', rfl, hstep⟩ := chainFrom_step left' hf' hop hright'
          rw [hstep]
          obtain ⟨taken, rfl, -⟩ := hc hright
          obtain ⟨taken', rfl, -⟩ := hc hright'
          simp only [List.length_cons, List.length_append] at hf hf'
          refine ih fuel' _ _ _ _ (by omega) (by omega) ?_ hs' h
          simp only [value, hv, hv']

theorem chain_transfers (hr : Transfers read) (ho : NoOperand operator?)
    {P : List Token → Expression → Prop} (hc : ReadsOnly read P) :
    Transfers (chain operator? read) := by
  intro ts us e rest hs h
  unfold chain at h
  split at h
  · cases h
  · rename_i left after hleft
    obtain ⟨left', after', hleft', hs', hv⟩ := hr hs hleft
    simp only [chain, hleft']
    exact chainFrom_transfers hr ho hc _ _ left left' after' after (Nat.le_refl _) (Nat.le_refl _)
      hv hs' h

end Chains

theorem noOperand_product : NoOperand Token.productOperator? := ⟨rfl, fun _ => rfl⟩

theorem noOperand_sum : NoOperand Token.sumOperator? := ⟨rfl, fun _ => rfl⟩

theorem sum_transfers_of_operand {n : Nat} (h : Transfers (operand n)) :
    Transfers (Expression.sum (operand n)) :=
  chain_transfers (chain_transfers h noOperand_product (readsOnly_operand n)) noOperand_sum
    (readsOnly_product (readsOnly_operand n))

/-- What the reader makes of a group is the group. -/
theorem operand_group {n : Nat} {us rest inner : List Token} {x e : Expression}
    (hx : Derives .sum inner x)
    (h : operand n (.opening :: (inner ++ .closing :: us)) = some (e, rest)) :
    e = .group x ∧ rest = us := by
  obtain ⟨taken, ht, hd, -⟩ := readsOnly_operand n h
  have hg := (Derives.group hx).reads (max (x.depth + 1) e.depth) us (Nat.le_max_left _ _)
  have he := hd.reads (max (x.depth + 1) e.depth) rest (Nat.le_max_right _ _)
  have ha : .opening :: inner ++ [.closing] ++ us = .opening :: (inner ++ .closing :: us) := by
    simp
  simp only [ReadsUpTo] at hg he
  rw [← ht] at he
  rw [ha, he] at hg
  simp only [Option.some.injEq, Prod.mk.injEq] at hg
  exact hg

theorem operand_transfers (n : Nat) : Transfers (operand n) := by
  induction n using Nat.strongRecOn with
  | ind n ih =>
    intro ts us e rest hs h
    cases hs with
    | nil =>
      rcases operand_eq_some h with ⟨_, hn, -⟩ | ⟨_, _, _, _, _, -, hn, -⟩ | ⟨_, _, _, -, hn, -⟩ <;>
        cases hn
    | @plain x ts us hs =>
      obtain ⟨rfl, rfl⟩ := operand_group (.term (.factor (.number x))) h
      exact ⟨.number x, ts, operand_number n x ts, hs, rfl⟩
    | @signed sign negative y ts us hn hs =>
      obtain ⟨rfl, rfl⟩ := operand_group (.term (.factor (.signed hn (.number y)))) h
      exact ⟨.number _, ts, operand_number n _ ts, hs, rfl⟩
    | @token t ts us hs =>
      rcases operand_eq_some h with ⟨x, ht, rfl⟩ |
        ⟨m, sign, negative, after, inner, rfl, ht, hn, hi, rfl⟩ |
        ⟨m, after, inner, rfl, ht, hi, rfl⟩
      · obtain ⟨rfl, rfl⟩ := List.cons.inj ht
        exact ⟨.number x, ts, operand_number n x ts, hs, rfl⟩
      · obtain ⟨rfl, rfl⟩ := List.cons.inj ht
        obtain ⟨inner', rest', hr, hs', hv⟩ := ih m (Nat.lt_succ_self m) hs hi
        refine ⟨.signed negative inner', rest', ?_, hs', by simp only [value, hv]⟩
        rw [operand_signed hn, hr, Option.map_some]
      · obtain ⟨rfl, rfl⟩ := List.cons.inj ht
        obtain ⟨inner', rest', hr, hs', hv⟩ :=
          sum_transfers_of_operand (ih m (Nat.lt_succ_self m)) hs hi
        obtain ⟨rest', rfl, hs''⟩ := hs'.of_cons_right (by simp)
        exact ⟨.group inner', rest', operand_opening m hr, hs'', hv⟩

theorem sum_transfers (n : Nat) : Transfers (Expression.sum (operand n)) :=
  sum_transfers_of_operand (operand_transfers n)

/-! ## The tokens of the text with the numbers -/

variable {view : View} {anchor : Position}

/-- The tokens of a text in parentheses, in front of more text. -/
theorem tokens?_parenthesized {text : List Char} {inner : List Token}
    (h : tokens? text = some inner) (after : List Char) :
    tokens? ('(' :: text ++ ')' :: after) =
      (tokens? after).map fun us => .opening :: (inner ++ .closing :: us) := by
  rw [List.cons_append, tokens?_token rfl, tokens?_append endsNumber_closing, h, tokens?_token rfl]
  cases tokens? after <;> rfl

/-- The tokens of a number in parentheses, in front of more text. -/
theorem rel_parenthesized {text : List Char} {x : Float}
    (h : Numeric.readNumber? text = some x) (hx : x.isFinite) {after : List Char}
    {ts? : Option (List Token)} (hr : Option.Rel Spliced ts? (tokens? after)) :
    Option.Rel Spliced (ts?.map (.number x :: ·)) (tokens? ('(' :: text ++ ')' :: after)) := by
  rcases tokens?_of_readNumber? h hx with hi | ⟨sign, negative, y, hn, hi, rfl⟩
  · rw [tokens?_parenthesized hi]
    generalize tokens? after = us? at hr ⊢
    cases hr with
    | none => exact .none
    | some hs => exact .some (.plain x hs)
  · rw [tokens?_parenthesized hi]
    generalize tokens? after = us? at hr ⊢
    cases hr with
    | none => exact .none
    | some hs => exact .some (.signed y hn hs)

theorem rel_append (before : List Token) {ts? us? : Option (List Token)}
    (h : Option.Rel Spliced ts? us?) :
    Option.Rel Spliced (ts?.map (before ++ ·)) (us?.map (before ++ ·)) := by
  cases h with
  | none => exact .none
  | some hs => exact .some ((Spliced.refl before).append hs)

theorem isFinite_referencedNumber (view : View) (anchor : Position)
    (spelling : Reference.Spelling) : (referencedNumber view anchor spelling).isFinite := by
  simp only [referencedNumber]
  cases h : Option.filter Float.isFinite _ with
  | none => decide +kernel
  | some x => exact (Option.filter_eq_some_iff.mp h).2

/-- The tokens of the text with the numbers written in are those of the direct way with spliced
numbers, and one text has tokens if the other has. -/
theorem rel_tokens? : ∀ (pieces : List Piece) (gap : List Char),
    Option.Rel Spliced (directTokens? view anchor gap pieces)
      (tokens? (gap ++ pieces.flatMap (·.fill view anchor))) := by
  intro pieces
  induction pieces with
  | nil =>
    intro gap
    rw [List.flatMap_nil, List.append_nil, directTokens?]
    cases tokens? gap with
    | none => exact .none
    | some ts => exact .some (.refl ts)
  | cons piece pieces ih =>
    intro gap
    cases piece with
    | char c =>
      have hi := ih (gap ++ [c])
      rwa [List.append_assoc] at hi
    | reference spelling =>
      have hx := isFinite_referencedNumber view anchor spelling
      have hi := rel_parenthesized (Numeric.readNumber?_render Numeric.plain hx) hx (ih [])
      have ha : gap ++ (Piece.reference spelling :: pieces).flatMap (·.fill view anchor) =
          gap ++ '(' :: ((Numeric.plain.render (referencedNumber view anchor spelling)).toList ++
            ')' :: pieces.flatMap (·.fill view anchor)) := by
        simp [Piece.fill]
      rw [ha, tokens?_append endsNumber_opening, directTokens?]
      cases tokens? gap with
      | none => exact .none
      | some before =>
        simp only [Option.bind_some]
        have ha := rel_append before hi
        rwa [Option.map_map] at ha

/-! ## The values -/

theorem numberOf?_eq_some_iff {text : String} {x : Float} (h : text.utf8ByteSize ≤ maxLength) :
    numberOf? text = some x ↔ ∃ tokens e, tokens? text.toList = some tokens ∧
      ofTokens? tokens = some e ∧ e.value.isFinite ∧ x = e.value := by
  unfold numberOf? ofText?
  rw [if_pos h]
  simp only [Option.filter_eq_some_iff, Option.map_eq_some_iff, Option.bind_eq_some_iff]
  constructor
  · rintro ⟨⟨e, ⟨tokens, ht, he⟩, rfl⟩, hf⟩
    exact ⟨tokens, e, ht, he, hf, rfl⟩
  · rintro ⟨tokens, e, ht, he, hf, rfl⟩
    exact ⟨⟨e, ⟨tokens, ht, he⟩, rfl⟩, hf⟩

/-- A text that is read does not nest too deep. -/
theorem depth_le_of_ofText? {text : String} (h : (ofText? text).isSome) :
    ∀ tokens e, tokens? text.toList = some tokens → Derives .sum tokens e →
      e.depth ≤ maxDepth := by
  intro tokens e ht hd
  unfold ofText? at h
  split at h
  · rw [ht, Option.bind_some] at h
    obtain ⟨e', he'⟩ := Option.isSome_iff_exists.mp h
    obtain ⟨hd', hn⟩ := ofTokens?_eq_some_iff.mp he'
    rwa [hd.unique hd']
  · cases h

theorem rel_tokens?_substitute (text : List Char) (view : View) (anchor : Position) :
    Option.Rel Spliced (directTokens? view anchor [] (pieces text))
      (tokens? (substitute text view anchor).toList) := by
  rw [substitute, String.toList_ofList]
  exact rel_tokens? (pieces text) []

/-- If the text with the numbers written in is an expression, so are the direct tokens, with the
same value. -/
theorem exists_direct {text : List Char} {us : List Token} {e : Expression}
    (hus : tokens? (substitute text view anchor).toList = some us) (he : Derives .sum us e) :
    ∃ ts d, directTokens? view anchor [] (pieces text) = some ts ∧ Derives .sum ts d ∧
      d.value = e.value := by
  have hr := rel_tokens?_substitute text view anchor
  rw [hus] at hr
  generalize hts : directTokens? view anchor [] (pieces text) = ts? at hr
  cases hr with
  | @some ts us hs =>
    obtain ⟨d, rest, hread, hrest, hv⟩ :=
      sum_transfers e.depth hs (sum_operand_eq_some_iff.mpr ⟨he, Nat.le_refl _⟩)
    cases hrest
    exact ⟨ts, d, rfl, (sum_operand_eq_some_iff.mp hread).1, hv⟩

/-- The text with the numbers written in comes to the direct value. -/
theorem numberOf?_substitute {text : List Char} {x : Float}
    (length : (substitute text view anchor).utf8ByteSize ≤ maxLength)
    (depth : ∀ tokens e, tokens? (substitute text view anchor).toList = some tokens →
      Derives .sum tokens e → e.depth ≤ maxDepth) :
    numberOf? (substitute text view anchor) = some x ↔ HasDirectValue text view anchor x := by
  rw [numberOf?_eq_some_iff length]
  constructor
  · rintro ⟨us, e', hus, he', hf, rfl⟩
    obtain ⟨ts, e, hts, hd, hv⟩ := exists_direct hus (ofTokens?_eq_some_iff.mp he').1
    exact ⟨ts, e, hts, hd, by rwa [hv], hv.symm⟩
  · rintro ⟨ts, e, hts, hd, hf, rfl⟩
    have hr := rel_tokens?_substitute text view anchor
    rw [hts] at hr
    generalize hus : tokens? (substitute text view anchor).toList = us? at hr
    cases hr with
    | @some ts us hs =>
      obtain ⟨e', hd', hv⟩ := hd.splice hs
      refine ⟨us, e', rfl, ofTokens?_eq_some_iff.mpr ⟨hd', depth us e' hus hd'⟩, ?_, hv.symm⟩
      rwa [hv]

/-- The value of an arithmetic text is its direct value, and zero if it has none. This supposes that
the text is not too long, and that with the numbers written in it is not too long either and does
not nest too deep. -/
theorem arithmetic_isDirectValue {text : List Char}
    (length : (String.ofList text).utf8ByteSize ≤ maxLength)
    (length' : (substitute text view anchor).utf8ByteSize ≤ maxLength)
    (depth : ∀ tokens e, tokens? (substitute text view anchor).toList = some tokens →
      Derives .sum tokens e → e.depth ≤ maxDepth) :
    HasDirectValue text view anchor (arithmetic text view anchor) ∨
      (∀ x, ¬ HasDirectValue text view anchor x) ∧ arithmetic text view anchor = 0 := by
  have ha : arithmetic text view anchor = (numberOf? (substitute text view anchor)).getD 0 :=
    if_pos length
  cases hn : numberOf? (substitute text view anchor) with
  | none =>
    refine .inr ⟨fun x hx => ?_, by rw [ha, hn]; rfl⟩
    rw [(numberOf?_substitute length' depth).mpr hx] at hn
    cases hn
  | some x =>
    refine .inl ?_
    rw [ha, hn]
    exact (numberOf?_substitute length' depth).mp hn

/-- A sheet with a negative number and texts. -/
def spliced : View := ⟨2, 2, fun p => if p = ⟨0, 0⟩ then .number (-2.5) else .text "12 apples"⟩

/-- The sign of the number is that of a factor, and of the text the leading number counts: the value
is `1.5 - (-2.5) * 12`. -/
theorem arithmetic_isDirectValue_of_spliced :
    HasDirectValue "1.5-A1*B$2".toList spliced ⟨5, 5⟩ 31.5 ∧
      arithmetic "1.5-A1*B$2".toList spliced ⟨5, 5⟩ = 31.5 := by
  have hvalue : arithmetic "1.5-A1*B$2".toList spliced ⟨5, 5⟩ = 31.5 := by decide +kernel
  have hzero : (31.5 : Float) ≠ 0 := by decide +kernel
  rcases @arithmetic_isDirectValue spliced ⟨5, 5⟩ "1.5-A1*B$2".toList (by decide +kernel)
    (by decide +kernel) (depth_le_of_ofText? (by decide +kernel)) with hdirect | ⟨-, hnone⟩
  · rw [hvalue] at hdirect
    exact ⟨hdirect, hvalue⟩
  · exact absurd (hvalue.symm.trans hnone) hzero

end Spreadsheet.Formula
