import Std.Data.ExtTreeMap

/-!
# Maps made of lists

A map made of a list of entries holds what the list says (`getElem?_ofList_iff`), as long as the
list does not say two things about a key. The entries of a map make the map again. Of a list that
does say several things about a key, `lastOf` is the last.
-/

namespace Spreadsheet

variable {κ α : Type} {order : κ → κ → Ordering} [Std.TransCmp order] {l : List (κ × α)} {k : κ}
  {x : α}

/-- The map with some entries inserted, one after the other. -/
def insertAll (m : Std.ExtTreeMap κ α order) (l : List (κ × α)) : Std.ExtTreeMap κ α order :=
  l.foldl (fun m e => m.insert e.1 e.2) m

theorem ofList_eq_insertAll (l : List (κ × α)) :
    Std.ExtTreeMap.ofList l order = insertAll ∅ l :=
  Std.ExtTreeMap.ofList_eq_foldl

variable [Std.LawfulEqCmp order]

theorem getElem?_insert_eq_some_iff {m : Std.ExtTreeMap κ α order} {i : κ} {y : α} :
    (m.insert i y)[k]? = some x ↔ i = k ∧ y = x ∨ i ≠ k ∧ m[k]? = some x := by
  rw [Std.ExtTreeMap.getElem?_insert]
  by_cases hi : i = k
  · subst hi
    simp
  · have hc : order i k ≠ .eq := fun hc => hi (Std.LawfulEqCmp.eq_of_compare hc)
    simp [hi, hc]

/-- What is held after insertions was inserted or held before. -/
theorem of_getElem?_insertAll : ∀ (l : List (κ × α)) {m : Std.ExtTreeMap κ α order},
    (insertAll m l)[k]? = some x → (k, x) ∈ l ∨ m[k]? = some x := by
  intro l
  induction l with
  | nil => intro m h; exact .inr h
  | cons e l ih =>
    intro m h
    rcases ih h with hm | hm
    · exact .inl (List.mem_cons_of_mem e hm)
    · rcases getElem?_insert_eq_some_iff.mp hm with ⟨rfl, rfl⟩ | ⟨-, hm⟩
      · exact .inl List.mem_cons_self
      · exact .inr hm

/-- A key that was inserted, or held before, is held. -/
theorem exists_getElem?_insertAll : ∀ (l : List (κ × α)) {m : Std.ExtTreeMap κ α order},
    ((k, x) ∈ l ∨ m[k]? = some x) → ∃ y, (insertAll m l)[k]? = some y := by
  intro l
  induction l generalizing x with
  | nil =>
    intro m h
    exact ⟨x, h.resolve_left List.not_mem_nil⟩
  | cons e l ih =>
    intro m h
    by_cases he : e.1 = k
    · exact ih (.inr (getElem?_insert_eq_some_iff.mpr (.inl ⟨he, rfl⟩)))
    · rcases h with h | h
      · rcases List.mem_cons.mp h with rfl | h
        · exact absurd rfl he
        · exact ih (.inl h)
      · exact ih (.inr (getElem?_insert_eq_some_iff.mpr (.inr ⟨he, h⟩)))

theorem mem_of_getElem?_ofList (h : (Std.ExtTreeMap.ofList l order)[k]? = some x) : (k, x) ∈ l := by
  rw [ofList_eq_insertAll] at h
  exact (of_getElem?_insertAll l h).resolve_right (by simp)

theorem getElem?_ofList_iff (hl : ∀ {y}, (k, x) ∈ l → (k, y) ∈ l → x = y) :
    (Std.ExtTreeMap.ofList l order)[k]? = some x ↔ (k, x) ∈ l := by
  refine ⟨mem_of_getElem?_ofList, fun h => ?_⟩
  have he : ∃ y, (insertAll (∅ : Std.ExtTreeMap κ α order) l)[k]? = some y :=
    exists_getElem?_insertAll l (.inl h)
  obtain ⟨y, hy⟩ := he
  rw [← ofList_eq_insertAll] at hy
  rw [hy, hl h (mem_of_getElem?_ofList hy)]

theorem ofList_toList (m : Std.ExtTreeMap κ α order) : .ofList m.toList order = m := by
  refine Std.ExtTreeMap.ext_getElem? fun k => Option.ext fun x => ?_
  rw [getElem?_ofList_iff, Std.ExtTreeMap.mem_toList_iff_getElem?_eq_some]
  intro y hx hy
  rw [Std.ExtTreeMap.mem_toList_iff_getElem?_eq_some] at hx hy
  exact Option.some.inj (hx.symm.trans hy)

/-- A map without the entries of some keys. -/
theorem getElem?_filter_key (m : Std.ExtTreeMap κ α order) (keep : κ → Bool) (k : κ) :
    (m.filter fun k _ => keep k)[k]? = if keep k then m[k]? else none := by
  rw [Std.ExtTreeMap.getElem?_filter']
  cases keep k <;> cases m[k]? <;> rfl

/-! ## The last entry of a key -/

section Last

variable [DecidableEq κ]

/-- The last thing that a list of entries says about a key. -/
def lastOf (k : κ) : List (κ × α) → Option α
  | [] => none
  | e :: l => (lastOf k l).or (if e.1 = k then some e.2 else none)

theorem mem_of_lastOf (h : lastOf k l = some x) : (k, x) ∈ l := by
  induction l with
  | nil => cases h
  | cons e l ih =>
    rw [lastOf, Option.or_eq_some_iff] at h
    rcases h with h | ⟨-, h⟩
    · exact List.mem_cons_of_mem e (ih h)
    · split at h
      · rename_i he
        obtain rfl := Option.some.inj h
        exact he ▸ List.mem_cons_self
      · cases h

theorem lastOf_eq_none_iff : lastOf k l = none ↔ ∀ x, (k, x) ∉ l := by
  induction l with
  | nil => simp [lastOf]
  | cons e l ih =>
    obtain ⟨i, y⟩ := e
    simp only [lastOf, Option.or_eq_none_iff, ih, ite_eq_right_iff, reduceCtorEq, imp_false,
      List.mem_cons, Prod.mk.injEq, not_or, not_and]
    exact ⟨fun ⟨hl, hi⟩ z => ⟨fun hk => absurd hk.symm hi, hl z⟩,
      fun h => ⟨fun z => (h z).2, fun hi => (h y).1 hi.symm rfl⟩⟩

theorem lastOf_eq_some_iff (hl : ∀ {y}, (k, x) ∈ l → (k, y) ∈ l → x = y) :
    lastOf k l = some x ↔ (k, x) ∈ l := by
  refine ⟨mem_of_lastOf, fun h => ?_⟩
  cases hk : lastOf k l with
  | none => exact absurd h (lastOf_eq_none_iff.mp hk x)
  | some y => rw [hl h (mem_of_lastOf hk)]

theorem lastOf_map {β : Type} (f : α → β) :
    lastOf k (l.map fun e => (e.1, f e.2)) = (lastOf k l).map f := by
  induction l with
  | nil => rfl
  | cons e l ih =>
    simp only [List.map_cons, lastOf, ih]
    cases lastOf k l <;> simp [apply_ite]

/-- A list of the entries of a map, in whatever order, says what the map holds. -/
theorem lastOf_eq_getElem? {m : Std.ExtTreeMap κ α order} (h : ∀ e, e ∈ l ↔ e ∈ m.toList) :
    lastOf k l = m[k]? := by
  cases hl : lastOf k l with
  | none =>
    refine (Option.eq_none_iff_forall_ne_some.mpr fun x hx => ?_).symm
    exact lastOf_eq_none_iff.mp hl x
      ((h _).mpr (Std.ExtTreeMap.mem_toList_iff_getElem?_eq_some.mpr hx))
  | some x =>
    exact (Std.ExtTreeMap.mem_toList_iff_getElem?_eq_some.mp ((h _).mp (mem_of_lastOf hl))).symm

end Last

end Spreadsheet
