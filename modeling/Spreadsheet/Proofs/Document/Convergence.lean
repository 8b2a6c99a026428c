import Mathlib.Data.List.Chain
import Mathlib.Order.Lattice.Nat
import Spreadsheet.Proofs.Document.Edit
import Spreadsheet.Proofs.Formula.Reads

/-!
# Recalculating again and again

A pass of `recalculate` evaluates every formula on the values from before the pass, so a formula
that reads others is right only some passes after them. When the formulas of a sheet read each other
without cycles, as many passes as there are cells on the longest chain of formulas that read each
other end in a sheet that recalculation does not change, and the results stored at the start do not
matter (`recalculate_converges`).

The proof is an induction on the length of the chains that start in a cell (`getElem?_iterate_eq`):
a cell without a formula never changes, and a formula reads only cells with shorter chains.
-/

namespace Spreadsheet

/-- The cell without the result of its formula. -/
def Cell.withoutResult (c : Cell) : Cell :=
  if c.formula.isSome then { c with value := .empty } else c

@[simp] theorem Cell.formula_withoutResult (c : Cell) : c.withoutResult.formula = c.formula := by
  unfold withoutResult
  split <;> rfl

theorem Cell.withoutResult_of_none {c : Cell} (h : c.formula = none) : c.withoutResult = c := by
  simp [withoutResult, h]

theorem Cell.withoutResult_of_some {c : Cell} {formula : String} (h : c.formula = some formula) :
    c.withoutResult = { c with value := .empty } := by
  simp [withoutResult, h]

namespace Document

variable {d e : Document} {p q : Position} {c : Cell} {formula : String}

/-! ## Results of formulas -/

/-- The sheet without the results of formulas. Sheets that are the same without them differ in
nothing but what their formulas show. -/
def withoutResults (d : Document) : Document :=
  { d with cells := d.cells.map fun _ c => c.withoutResult }

theorem getElem?_withoutResults (d : Document) (p : Position) :
    d.withoutResults.cells[p]? = d.cells[p]?.map Cell.withoutResult :=
  Std.ExtTreeMap.getElem?_map

theorem getElem?_recalculate (d : Document) (p : Position) :
    d.recalculate.cells[p]? = d.cells[p]?.map fun c =>
      match c.formula with
      | some formula => { c with value := d.evaluate formula p }
      | none => c :=
  Std.ExtTreeMap.getElem?_map

theorem withoutResults_recalculate (d : Document) :
    d.recalculate.withoutResults = d.withoutResults := by
  have hc : d.recalculate.withoutResults.cells = d.withoutResults.cells := by
    refine Std.ExtTreeMap.ext_getElem? fun p => ?_
    rw [getElem?_withoutResults, getElem?_recalculate, getElem?_withoutResults, Option.map_map]
    refine congrFun (congrArg Option.map (funext fun c => ?_)) _
    cases hf : c.formula <;> simp [hf, Cell.withoutResult]
  exact congrArg (fun cells => Document.mk d.rows d.cols cells d.widths d.heights) hc

theorem withoutResults_iterate (d : Document) (n : Nat) :
    (recalculate^[n] d).withoutResults = d.withoutResults := by
  induction n with
  | zero => rfl
  | succ n ih => rw [Function.iterate_succ_apply', withoutResults_recalculate, ih]

/-! ## Sheets that differ in results -/

theorem rows_eq_of_withoutResults (h : d.withoutResults = e.withoutResults) : d.rows = e.rows :=
  (Document.mk.inj h).1

theorem cols_eq_of_withoutResults (h : d.withoutResults = e.withoutResults) : d.cols = e.cols :=
  (Document.mk.inj h).2.1

theorem eq_of_withoutResults (h : d.withoutResults = e.withoutResults)
    (hc : ∀ p : Position, d.cells[p]? = e.cells[p]?) : d = e := by
  obtain ⟨hr, hl, -, hw, hh⟩ := Document.mk.inj h
  have hm : d.cells = e.cells := Std.ExtTreeMap.ext_getElem? fun p => hc p
  cases d
  cases e
  simp only at hr hl hw hh hm
  rw [hr, hl, hw, hh, hm]

theorem map_withoutResult_eq (h : d.withoutResults = e.withoutResults) (p : Position) :
    d.cells[p]?.map Cell.withoutResult = e.cells[p]?.map Cell.withoutResult := by
  rw [← getElem?_withoutResults, ← getElem?_withoutResults, h]

theorem formula_eq_of_withoutResults (h : d.withoutResults = e.withoutResults) (p : Position) :
    (d.cell p).formula = (e.cell p).formula := by
  have hm := map_withoutResult_eq h p
  unfold cell
  cases hd : d.cells[p]? with
  | none =>
    cases he : e.cells[p]? with
    | none => rfl
    | some c' => simp [hd, he] at hm
  | some c =>
    cases he : e.cells[p]? with
    | none => simp [hd, he] at hm
    | some c' =>
      simp only [hd, he, Option.map_some, Option.some.injEq] at hm
      simpa using congrArg Cell.formula hm

/-- What is stored where there is no formula is no result. -/
theorem getElem?_eq_of_no_formula (h : d.withoutResults = e.withoutResults)
    (hf : (d.cell p).formula = none) : d.cells[p]? = e.cells[p]? := by
  have hm := map_withoutResult_eq h p
  have hf' := formula_eq_of_withoutResults h p
  rw [hf] at hf'
  unfold cell at hf hf'
  have noResult : ∀ x : Option Cell, (x.getD {}).formula = none →
      x.map Cell.withoutResult = x := by
    intro x hx
    cases x with
    | none => rfl
    | some c => exact congrArg some (Cell.withoutResult_of_none hx)
  rwa [noResult _ hf, noResult _ hf'.symm] at hm

theorem value_view_eq (rows : d.rows = e.rows) (cols : d.cols = e.cols)
    (h : d.cells[q]? = e.cells[q]?) : d.view.value q = e.view.value q := by
  have hv : d.value q = e.value q := by
    unfold value cell
    rw [h]
  have hin : d.view.Contains q ↔ e.view.Contains q := by
    simp only [View.Contains, view, rows, cols]
  exact if_congr hin hv rfl

/-- A pass makes the same of two sheets where their formulas come to the same. -/
theorem getElem?_recalculate_eq (h : d.withoutResults = e.withoutResults)
    (hv : ∀ formula, (d.cell p).formula = some formula →
      d.evaluate formula p = e.evaluate formula p) :
    d.recalculate.cells[p]? = e.recalculate.cells[p]? := by
  have hf := formula_eq_of_withoutResults h p
  cases hd : (d.cell p).formula with
  | none =>
    have hr : d.recalculate.withoutResults = e.recalculate.withoutResults := by
      rw [withoutResults_recalculate, withoutResults_recalculate, h]
    refine getElem?_eq_of_no_formula hr ?_
    rw [formula_eq_of_withoutResults (withoutResults_recalculate d) p, hd]
  | some formula =>
    have hm := map_withoutResult_eq h p
    have hv := hv formula hd
    rw [hd] at hf
    rw [getElem?_recalculate, getElem?_recalculate]
    unfold cell at hd hf
    cases hdc : d.cells[p]? with
    | none => simp [hdc] at hd
    | some c =>
      cases hec : e.cells[p]? with
      | none => simp [hec] at hf
      | some c' =>
        simp only [hdc, hec, Option.getD_some] at hd hf
        simp only [hdc, hec, Option.map_some, Option.some.injEq,
          Cell.withoutResult_of_some hd, Cell.withoutResult_of_some hf.symm, Cell.mk.injEq] at hm
        simp only [Option.map_some, hd, ← hf, hv, hm.2.2]

/-! ## Chains of formulas -/

/-- Whether a position has a formula that reads another position with a formula. -/
def ReadsFormula (d : Document) (p q : Position) : Prop :=
  (∃ formula, (d.cell p).formula = some formula ∧ Formula.Reads formula p d.rows d.cols q) ∧
    (d.cell q).formula.isSome

/-- Whether no formula reads itself, directly or through others. -/
def Acyclic (d : Document) : Prop := ∀ p, ¬ Relation.TransGen d.ReadsFormula p p

/-- Positions with formulas, each of which reads the next one. -/
structure ReadChain (d : Document) (chain : List Position) : Prop where
  formula : ∀ p ∈ chain, (d.cell p).formula.isSome
  reads : chain.IsChain d.ReadsFormula

theorem ReadChain.nodup (h : d.Acyclic) {chain : List Position} (hc : d.ReadChain chain) :
    chain.Nodup := by
  have ht : chain.IsChain (Relation.TransGen d.ReadsFormula) :=
    hc.reads.imp fun _ _ hr => Relation.TransGen.single hr
  refine ht.pairwise.imp fun {p q} hpq heq => ?_
  rw [heq] at hpq
  exact h q hpq

/-- The numbers of cells on the chains. -/
def chainLengths (d : Document) : Set Nat := {n | ∃ chain, d.ReadChain chain ∧ chain.length = n}

/-- Without cycles, a chain is at most as long as there are cells. -/
theorem ReadChain.length_le (h : d.Acyclic) {chain : List Position} (hc : d.ReadChain chain) :
    chain.length ≤ d.cells.size := by
  have hs : chain ⊆ d.cells.keys := by
    intro p hp
    rw [Std.ExtTreeMap.mem_keys]
    by_contra hn
    have hf := hc.formula p hp
    unfold cell at hf
    rw [Std.ExtTreeMap.getElem?_eq_none hn] at hf
    simp at hf
  rw [← Std.ExtTreeMap.length_keys]
  exact (List.subperm_of_subset (hc.nodup h) hs).length_le

/-- There are no cycles if every formula has a greater rank than those it reads. -/
theorem acyclic_of_rank (rank : Position → Nat)
    (h : ∀ entry ∈ d.cells.toList, ∀ entry' ∈ d.cells.toList, ∀ formula ∈ entry.2.formula,
      entry'.2.formula.isSome → Formula.Reads formula entry.1 d.rows d.cols entry'.1 →
        rank entry'.1 < rank entry.1) : d.Acyclic := by
  have stored : ∀ p, (d.cell p).formula.isSome → (p, d.cell p) ∈ d.cells.toList := by
    intro p hp
    unfold cell at hp ⊢
    cases hc : d.cells[p]? with
    | none => simp [hc] at hp
    | some c => exact Std.ExtTreeMap.mem_toList_iff_getElem?_eq_some.mpr hc
  have hlt : ∀ p q, d.ReadsFormula p q → rank q < rank p := by
    rintro p q ⟨⟨formula, hf, hr⟩, hq⟩
    exact h _ (stored p (by rw [hf]; rfl)) _ (stored q hq) formula hf hq hr
  intro p hp
  have hlt' : ∀ q, Relation.TransGen d.ReadsFormula p q → rank q < rank p := by
    intro q hq
    induction hq with
    | single hr => exact hlt p _ hr
    | tail _ hr ih => exact Nat.lt_trans (hlt _ _ hr) ih
  exact Nat.lt_irrefl _ (hlt' p hp)

/-- Without cycles, there is a longest chain. -/
theorem exists_longest_chain (h : d.Acyclic) :
    ∃ k, IsGreatest d.chainLengths k := by
  have hne : d.chainLengths.Nonempty := ⟨0, [], ⟨by simp, .nil⟩, rfl⟩
  have hb : d.cells.size ∈ upperBounds d.chainLengths := by
    rintro n ⟨chain, hc, rfl⟩
    exact hc.length_le h
  exact ⟨_, Nat.sSup_mem hne ⟨_, hb⟩, fun n hn => le_csSup ⟨_, hb⟩ hn⟩

/-! ## Convergence -/

/-- A formula reads only positions with shorter chains. -/
theorem ReadChain.cons (hf : (d.cell p).formula = some formula)
    (hr : Formula.Reads formula p d.rows d.cols q) {chain : List Position}
    (hc : d.ReadChain (q :: chain)) : d.ReadChain (p :: q :: chain) where
  formula := by
    intro x hx
    rcases List.mem_cons.mp hx with rfl | hx
    · rw [hf]
      rfl
    · exact hc.formula x hx
  reads := .cons_cons ⟨⟨formula, hf, hr⟩, hc.formula q List.mem_cons_self⟩ hc.reads

/-- After as many passes as a chain from a position can have cells, it does not matter how many more
there are, nor which results there were at the start. -/
theorem getElem?_iterate_eq (h : d.withoutResults = e.withoutResults) :
    ∀ (n : Nat) (p : Position), (∀ chain, d.ReadChain (p :: chain) → chain.length < n) →
      ∀ a b : Nat, n ≤ a → n ≤ b →
        (recalculate^[a] d).cells[p]? = (recalculate^[b] e).cells[p]? := by
  have hab : ∀ a b : Nat,
      (recalculate^[a] d).withoutResults = (recalculate^[b] e).withoutResults := by
    intro a b
    rw [withoutResults_iterate, withoutResults_iterate, h]
  intro n
  induction n with
  | zero =>
    intro p hp a b _ _
    refine getElem?_eq_of_no_formula (hab a b) ?_
    rw [formula_eq_of_withoutResults (withoutResults_iterate d a) p]
    cases hf : (d.cell p).formula with
    | none => rfl
    | some formula =>
      have hc : d.ReadChain [p] := ⟨by simp [hf], .singleton p⟩
      exact absurd (hp [] hc) (Nat.lt_irrefl 0)
  | succ n ih =>
    intro p hp a b ha hb
    obtain ⟨a, rfl⟩ := Nat.exists_eq_add_of_le' ha
    obtain ⟨b, rfl⟩ := Nat.exists_eq_add_of_le' hb
    rw [← Nat.add_assoc, ← Nat.add_assoc, Function.iterate_succ_apply',
      Function.iterate_succ_apply']
    refine getElem?_recalculate_eq (hab _ _) fun formula hf => ?_
    have hrows := rows_eq_of_withoutResults (withoutResults_iterate d (a + n))
    have hcols := cols_eq_of_withoutResults (withoutResults_iterate d (a + n))
    rw [formula_eq_of_withoutResults (withoutResults_iterate d _) p] at hf
    have hr := rows_eq_of_withoutResults (hab (a + n) (b + n))
    have hl := cols_eq_of_withoutResults (hab (a + n) (b + n))
    refine Formula.evaluate_eq_of_reads ⟨hr, hl, fun q hq => value_view_eq hr hl ?_⟩
    change Formula.Reads formula p (recalculate^[a + n] d).rows (recalculate^[a + n] d).cols q at hq
    rw [hrows, hcols] at hq
    refine ih q (fun chain hc => ?_) _ _ (Nat.le_add_left n a) (Nat.le_add_left n b)
    exact Nat.lt_of_succ_lt_succ (hp (q :: chain) (hc.cons hf hq))

/-- Whether a pass changes nothing, so that every formula shows what it comes to. -/
structure Settled (d : Document) : Prop where
  recalculate_eq : d.recalculate = d
  value_eq : ∀ {p : Position} {c : Cell} {formula : String}, d.cells[p]? = some c →
    c.formula = some formula → c.value = d.evaluate formula p

theorem Settled.of_recalculate_eq (h : d.recalculate = d) : d.Settled where
  recalculate_eq := h
  value_eq {p c formula} hc hf := by
    have hr := getElem?_recalculate d p
    rw [h, hc, Option.map_some, Option.some.injEq, hf] at hr
    exact congrArg Cell.value hr

/-- When no formula reads itself, let `k` be the number of formulas on the longest chain of formulas
that read each other. Then `k` passes end in a settled sheet, and in the same one whatever the
formulas showed at the start. -/
theorem recalculate_converges (h : d.Acyclic) :
    ∃ k, IsGreatest d.chainLengths k ∧ (recalculate^[k] d).Settled ∧
      ∀ e : Document, e.withoutResults = d.withoutResults →
        recalculate^[k] e = recalculate^[k] d := by
  obtain ⟨k, hk⟩ := exists_longest_chain h
  have hlt : ∀ (p : Position) (chain : List Position), d.ReadChain (p :: chain) →
      chain.length < k := fun p chain hc => hk.2 ⟨p :: chain, hc, rfl⟩
  refine ⟨k, hk, .of_recalculate_eq ?_, fun e he => ?_⟩
  · rw [← Function.iterate_succ_apply' recalculate]
    refine eq_of_withoutResults ?_ fun p =>
      getElem?_iterate_eq rfl k p (hlt p) (k + 1) k (Nat.le_succ k) (Nat.le_refl k)
    rw [withoutResults_iterate, withoutResults_iterate]
  · refine eq_of_withoutResults ?_ fun p =>
      (getElem?_iterate_eq he.symm k p (hlt p) k k (Nat.le_refl k) (Nat.le_refl k)).symm
    rw [withoutResults_iterate, withoutResults_iterate, he]

/-- A sum of a range in which a product stands that reads a number. -/
def chained : Document :=
  (((Document.empty 3 3).put ⟨0, 0⟩ (Cell.ofFormula "=SUM(B1:B2)")).put ⟨1, 1⟩
    (Cell.ofFormula "=C1*2")).put ⟨0, 2⟩ { value := .number 4 }

theorem recalculate_converges_of_chained :
    chained.Acyclic ∧ ∃ k, IsGreatest chained.chainLengths k ∧ (recalculate^[k] chained).Settled ∧
      ∀ e : Document, e.withoutResults = chained.withoutResults →
        recalculate^[k] e = recalculate^[k] chained := by
  have h : chained.Acyclic := acyclic_of_rank (fun p => 3 - p.col) (by decide +kernel)
  exact ⟨h, recalculate_converges h⟩

end Document

end Spreadsheet
