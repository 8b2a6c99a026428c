import Spreadsheet.Formula.Expression

/-!
# The grammar of expressions

`Derives` is the grammar of arithmetic as a relation between lists of tokens and expressions, with
no bound on nesting. The reader accepts what the grammar derives as long as it nests at most as deep
as the reader goes, and nothing else (`ofTokens?_eq_some_iff`); so a list of tokens has at most one
expression (`Derives.unique`).

The grammar joins operations at their right end and the reader goes from left to right. For
completeness, `Derives.reads` therefore says what is left to do once the tokens of a sum or a
product have been read: to continue the chain from its expression.
-/

namespace Spreadsheet.Formula

/-- The sign that a token is: whether it is a minus. -/
def Token.negative? : Token → Option Bool
  | .plus => some false
  | .minus => some true
  | _ => none

namespace Expression

/-- The kinds of expressions in the grammar. -/
inductive Phrase where
  | operand
  | product
  | sum
deriving DecidableEq, Repr

/-- The grammar. Chains of operations grow to the right, so operations are joined from the left. -/
inductive Derives : Phrase → List Token → Expression → Prop where
  | number (x : Float) : Derives .operand [.number x] (.number x)
  | signed {sign negative tokens e} : Token.negative? sign = some negative →
      Derives .operand tokens e → Derives .operand (sign :: tokens) (.signed negative e)
  | group {tokens e} : Derives .sum tokens e →
      Derives .operand (.opening :: tokens ++ [.closing]) (.group e)
  | factor {tokens e} : Derives .operand tokens e → Derives .product tokens e
  | product {before token operator after left right} : Derives .product before left →
      Token.productOperator? token = some operator → Derives .operand after right →
      Derives .product (before ++ token :: after) (.binary operator left right)
  | term {tokens e} : Derives .product tokens e → Derives .sum tokens e
  | sum {before token operator after left right} : Derives .sum before left →
      Token.sumOperator? token = some operator → Derives .product after right →
      Derives .sum (before ++ token :: after) (.binary operator left right)

variable {tokens rest : List Token} {e : Expression} {n : Nat}

/-! ## What an operand starts with -/

theorem operand_number (n : Nat) (x : Float) (rest : List Token) :
    operand n (.number x :: rest) = some (.number x, rest) := by
  cases n <;> rfl

theorem operand_signed {sign : Token} {negative : Bool} (h : sign.negative? = some negative)
    (n : Nat) (rest : List Token) :
    operand (n + 1) (sign :: rest) =
      (operand n rest).map fun (inner, rest) => (.signed negative inner, rest) := by
  cases sign <;> simp only [Token.negative?, Option.some.injEq, reduceCtorEq] at h <;>
    subst h <;> rfl

theorem operand_opening (n : Nat) {inner : Expression}
    (h : sum (operand n) tokens = some (inner, .closing :: rest)) :
    operand (n + 1) (.opening :: tokens) = some (.group inner, rest) := by
  simp only [operand, h]

/-- The three ways to read an operand. -/
theorem operand_eq_some (h : operand n tokens = some (e, rest)) :
    (∃ x, tokens = .number x :: rest ∧ e = .number x) ∨
    (∃ m sign negative after inner, n = m + 1 ∧ tokens = sign :: after ∧
      sign.negative? = some negative ∧ operand m after = some (inner, rest) ∧
        e = .signed negative inner) ∨
    (∃ m after inner, n = m + 1 ∧ tokens = .opening :: after ∧
      sum (operand m) after = some (inner, .closing :: rest) ∧ e = .group inner) := by
  unfold operand at h
  split at h
  · simp only [Option.some.injEq, Prod.mk.injEq] at h
    exact .inl ⟨_, by rw [h.2], h.1.symm⟩
  · rename_i m after
    obtain ⟨⟨inner, rest'⟩, hr, he⟩ := Option.map_eq_some_iff.mp h
    simp only [Prod.mk.injEq] at he
    exact .inr (.inl ⟨m, .plus, false, after, inner, rfl, rfl, rfl, by rw [hr, he.2], he.1.symm⟩)
  · rename_i m after
    obtain ⟨⟨inner, rest'⟩, hr, he⟩ := Option.map_eq_some_iff.mp h
    simp only [Prod.mk.injEq] at he
    exact .inr (.inl ⟨m, .minus, true, after, inner, rfl, rfl, rfl, by rw [hr, he.2], he.1.symm⟩)
  · rename_i m after
    split at h
    · rename_i inner rest' hr
      simp only [Option.some.injEq, Prod.mk.injEq] at h
      exact .inr (.inr ⟨m, after, inner, rfl, rfl, by rw [hr, h.2], h.1.symm⟩)
    · cases h
  · cases h

/-! ## What is read follows the grammar -/

/-- Whether everything that a reader reads stands in a relation to its expression. -/
def ReadsOnly (read : Reader) (P : List Token → Expression → Prop) : Prop :=
  ∀ {tokens e rest}, read tokens = some (e, rest) → ∃ taken, tokens = taken ++ rest ∧ P taken e

section Chains

variable {operator? : Token → Option Operator} {read : Reader}
  {P Q : List Token → Expression → Prop}

theorem readsOnly_chainFrom (hr : ReadsOnly read P)
    (step : ∀ {before token operator after left right}, Q before left →
      operator? token = some operator → P after right →
        Q (before ++ token :: after) (.binary operator left right)) :
    ∀ (fuel : Nat) (before : List Token) (left : Expression) (tokens : List Token), Q before left →
      chainFrom operator? read fuel left tokens = some (e, rest) →
        ∃ taken, tokens = taken ++ rest ∧ Q (before ++ taken) e := by
  have stop : ∀ {before : List Token} {left : Expression} {tokens : List Token}, Q before left →
      some (left, tokens) = some (e, rest) →
        ∃ taken, tokens = taken ++ rest ∧ Q (before ++ taken) e := by
    intro before left tokens hq h
    simp only [Option.some.injEq, Prod.mk.injEq] at h
    obtain ⟨rfl, rfl⟩ := h
    exact ⟨[], rfl, by rwa [List.append_nil]⟩
  intro fuel
  induction fuel with
  | zero => intro before left tokens hq h; exact stop hq h
  | succ fuel ih =>
    intro before left tokens hq h
    cases tokens with
    | nil => exact stop hq h
    | cons token tokens =>
      unfold chainFrom at h
      split at h
      · exact stop hq h
      · rename_i operator ho
        split at h
        · cases h
        · rename_i right after hright
          obtain ⟨taken, rfl, hp⟩ := hr hright
          obtain ⟨taken', rfl, hq'⟩ := ih _ _ _ (step hq ho hp) h
          refine ⟨token :: taken ++ taken', by simp, ?_⟩
          rwa [List.append_assoc] at hq'

theorem readsOnly_chain (hr : ReadsOnly read P) (base : ∀ {tokens e}, P tokens e → Q tokens e)
    (step : ∀ {before token operator after left right}, Q before left →
      operator? token = some operator → P after right →
        Q (before ++ token :: after) (.binary operator left right)) :
    ReadsOnly (chain operator? read) Q := by
  intro tokens e rest h
  unfold chain at h
  split at h
  · cases h
  · rename_i left after hleft
    obtain ⟨first, rfl, hp⟩ := hr hleft
    obtain ⟨taken, rfl, hq⟩ := readsOnly_chainFrom hr step _ first left _ (base hp) h
    exact ⟨first ++ taken, by simp, hq⟩

end Chains

/-- Whether the grammar derives an expression that nests at most `n` deep. -/
def DerivesWithin (n : Nat) (phrase : Phrase) (tokens : List Token) (e : Expression) : Prop :=
  Derives phrase tokens e ∧ e.depth ≤ n

theorem readsOnly_product (h : ReadsOnly (operand n) (DerivesWithin n .operand)) :
    ReadsOnly (product (operand n)) (DerivesWithin n .product) :=
  readsOnly_chain h (fun hp => ⟨.factor hp.1, hp.2⟩)
    fun hq ho hp => ⟨.product hq.1 ho hp.1, Nat.max_le.mpr ⟨hq.2, hp.2⟩⟩

theorem readsOnly_sum (h : ReadsOnly (operand n) (DerivesWithin n .operand)) :
    ReadsOnly (sum (operand n)) (DerivesWithin n .sum) :=
  readsOnly_chain (readsOnly_product h) (fun hp => ⟨.term hp.1, hp.2⟩)
    fun hq ho hp => ⟨.sum hq.1 ho hp.1, Nat.max_le.mpr ⟨hq.2, hp.2⟩⟩

theorem readsOnly_operand (n : Nat) : ReadsOnly (operand n) (DerivesWithin n .operand) := by
  induction n with
  | zero =>
    intro tokens e rest h
    rcases operand_eq_some h with ⟨x, rfl, rfl⟩ | ⟨m, _, _, _, _, hm, -⟩ | ⟨m, _, _, hm, -⟩
    · exact ⟨[.number x], rfl, .number x, Nat.le_refl 0⟩
    · cases hm
    · cases hm
  | succ n ih =>
    intro tokens e rest h
    rcases operand_eq_some h with ⟨x, rfl, rfl⟩ |
      ⟨m, sign, negative, after, inner, hm, rfl, hs, hi, rfl⟩ |
      ⟨m, after, inner, hm, rfl, hi, rfl⟩
    · exact ⟨[.number x], rfl, .number x, Nat.zero_le _⟩
    · obtain rfl := Nat.succ.inj hm
      obtain ⟨taken, rfl, hd, hn⟩ := ih hi
      exact ⟨sign :: taken, rfl, .signed hs hd, Nat.succ_le_succ hn⟩
    · obtain rfl := Nat.succ.inj hm
      obtain ⟨taken, rfl, hd, hn⟩ := readsOnly_sum ih hi
      exact ⟨.opening :: taken ++ [.closing], by simp, .group hd, Nat.succ_le_succ hn⟩

/-! ## What follows the grammar is read -/

/-- Whether a chain of operations ends here: no operator of it follows. -/
def Ends (operator? : Token → Option Operator) (rest : List Token) : Prop :=
  ∀ token ∈ rest.head?, operator? token = none

theorem chainFrom_of_ends {operator? : Token → Option Operator} (h : Ends operator? rest)
    (read : Reader) (fuel : Nat) (e : Expression) :
    chainFrom operator? read fuel e rest = some (e, rest) := by
  cases fuel with
  | zero => rfl
  | succ fuel =>
    cases rest with
    | nil => rfl
    | cons token rest =>
      unfold chainFrom
      rw [h token rfl]

theorem chainFrom_step {operator? : Token → Option Operator} {read : Reader} {token : Token}
    {operator : Operator} {right : Expression} {after : List Token} {fuel : Nat} (left : Expression)
    (hf : (token :: tokens).length ≤ fuel) (ho : operator? token = some operator)
    (hr : read tokens = some (right, after)) :
    ∃ fuel', fuel = fuel' + 1 ∧ chainFrom operator? read fuel left (token :: tokens) =
      chainFrom operator? read fuel' (.binary operator left right) after := by
  obtain ⟨fuel, rfl⟩ :=
    Nat.exists_eq_add_of_le' (Nat.le_trans (Nat.succ_le_succ (Nat.zero_le _)) hf)
  refine ⟨fuel, rfl, ?_⟩
  simp only [chainFrom, ho, hr]

/-- A sign of a sum is no operator of a product. -/
theorem ends_product_of_sum {token : Token} {operator : Operator}
    (h : token.sumOperator? = some operator) (rest : List Token) :
    Ends Token.productOperator? (token :: rest) := by
  intro t ht
  simp only [List.head?_cons, Option.mem_def, Option.some.injEq] at ht
  subst ht
  cases token <;> first | rfl | simp [Token.sumOperator?] at h

/-- What there is to read of the tokens of a phrase in front of others: an operand whole, and a
product or sum up to where its chain of operations goes on. -/
def ReadsUpTo (n : Nat) (tokens : List Token) (e : Expression) (rest : List Token) : Phrase → Prop
  | .operand => operand n (tokens ++ rest) = some (e, rest)
  | .product => ∃ fuel, rest.length ≤ fuel ∧ product (operand n) (tokens ++ rest) =
      chainFrom Token.productOperator? (operand n) fuel e rest
  | .sum => Ends Token.productOperator? rest → ∃ fuel, rest.length ≤ fuel ∧
      sum (operand n) (tokens ++ rest) =
        chainFrom Token.sumOperator? (product (operand n)) fuel e rest

theorem ReadsUpTo.product_of_ends (h : ReadsUpTo n tokens e rest .product)
    (hp : Ends Token.productOperator? rest) :
    product (operand n) (tokens ++ rest) = some (e, rest) := by
  obtain ⟨fuel, -, h⟩ := h
  rw [h, chainFrom_of_ends hp]

theorem ReadsUpTo.sum_of_ends (h : ReadsUpTo n tokens e rest .sum)
    (hp : Ends Token.productOperator? rest) (hs : Ends Token.sumOperator? rest) :
    sum (operand n) (tokens ++ rest) = some (e, rest) := by
  obtain ⟨fuel, -, h⟩ := h hp
  rw [h, chainFrom_of_ends hs]

theorem Derives.reads {phrase : Phrase} (h : Derives phrase tokens e) :
    ∀ (n : Nat) (rest : List Token), e.depth ≤ n → ReadsUpTo n tokens e rest phrase := by
  induction h with
  | number x => intro n rest _; exact operand_number n x rest
  | signed hs _ ih =>
    intro n rest hn
    obtain ⟨n, rfl⟩ := Nat.exists_eq_add_of_le' (Nat.le_trans (Nat.le_add_left 1 _) hn)
    have hi := ih n rest (Nat.le_of_succ_le_succ hn)
    simp only [ReadsUpTo] at hi
    simp only [ReadsUpTo, List.cons_append, operand_signed hs, hi, Option.map_some]
  | @group tokens e _ ih =>
    intro n rest hn
    obtain ⟨n, rfl⟩ := Nat.exists_eq_add_of_le' (Nat.le_trans (Nat.le_add_left 1 _) hn)
    have hi := (ih n (.closing :: rest) (Nat.le_of_succ_le_succ hn)).sum_of_ends
      (by simp [Ends, Token.productOperator?]) (by simp [Ends, Token.sumOperator?])
    have ha : .opening :: tokens ++ [.closing] ++ rest =
        .opening :: (tokens ++ .closing :: rest) := by
      simp
    simp only [ReadsUpTo]
    rw [ha]
    exact operand_opening n hi
  | factor _ ih =>
    intro n rest hn
    have hi := ih n rest hn
    simp only [ReadsUpTo] at hi
    refine ⟨rest.length, Nat.le_refl _, ?_⟩
    simp only [Expression.product, chain, hi]
  | @product before token operator after left right _ ho _ ihl ihr =>
    intro n rest hn
    obtain ⟨hl, hr⟩ := Nat.max_le.mp hn
    obtain ⟨fuel, hf, hleft⟩ := ihl n (token :: (after ++ rest)) hl
    obtain ⟨fuel, rfl, hstep⟩ := chainFrom_step left hf ho (ihr n rest hr)
    refine ⟨fuel, ?_, ?_⟩
    · simp only [List.length_cons, List.length_append] at hf
      omega
    · rw [List.append_assoc, List.cons_append, hleft, hstep]
  | @term tokens e _ ih =>
    intro n rest hn hp
    refine ⟨rest.length, Nat.le_refl _, ?_⟩
    unfold Expression.sum chain
    rw [(ih n rest hn).product_of_ends hp]
  | @sum before token operator after left right _ ho _ ihl ihr =>
    intro n rest hn hp
    obtain ⟨hl, hr⟩ := Nat.max_le.mp hn
    obtain ⟨fuel, hf, hleft⟩ :=
      ihl n (token :: (after ++ rest)) hl (ends_product_of_sum ho _)
    obtain ⟨fuel, rfl, hstep⟩ := chainFrom_step left hf ho ((ihr n rest hr).product_of_ends hp)
    refine ⟨fuel, ?_, ?_⟩
    · simp only [List.length_cons, List.length_append] at hf
      omega
    · rw [List.append_assoc, List.cons_append, hleft, hstep]

/-! ## The reader and the grammar -/

/-- A reader that goes `n` deep reads all of a list of tokens exactly if the grammar derives it with
an expression that nests at most `n` deep. -/
theorem sum_operand_eq_some_iff :
    sum (operand n) tokens = some (e, []) ↔ Derives .sum tokens e ∧ e.depth ≤ n := by
  constructor
  · intro h
    obtain ⟨taken, rfl, hd⟩ := readsOnly_sum (readsOnly_operand n) h
    rw [List.append_nil]
    exact hd
  · rintro ⟨hd, hn⟩
    have h := (hd.reads n [] hn).sum_of_ends (by simp [Ends]) (by simp [Ends])
    rwa [List.append_nil] at h

theorem ofTokens?_eq_some_iff :
    ofTokens? tokens = some e ↔ Derives .sum tokens e ∧ e.depth ≤ maxDepth := by
  rw [← sum_operand_eq_some_iff]
  unfold ofTokens?
  split
  · rename_i e' h
    simp [h]
  · rename_i h
    simp only [reduceCtorEq, false_iff]
    exact h e

/-- A list of tokens has at most one expression. -/
theorem Derives.unique {e' : Expression} (h : Derives .sum tokens e) (h' : Derives .sum tokens e') :
    e = e' := by
  have hr := sum_operand_eq_some_iff.mpr ⟨h, Nat.le_max_left e.depth e'.depth⟩
  have hr' := sum_operand_eq_some_iff.mpr ⟨h', Nat.le_max_right e.depth e'.depth⟩
  rw [hr] at hr'
  simpa using hr'

end Expression

end Spreadsheet.Formula
