import Mathlib.Data.List.Basic
import Spreadsheet.Text.Category

/-!
# Small sets of code points

Spans that are proper and in order need no sorting (`CodeSet.ofSpans_of_sorted`), so what a set of a
few spans is can be worked out: its members, and what is left of it without surrogates.
-/

namespace Spreadsheet.Text

namespace CodeSet

theorem ofSpans_of_sorted {spans : List Span} (hproper : ∀ s ∈ spans, s.first ≤ s.last)
    (hsorted : spans.Pairwise fun s t => s.first ≤ t.first) :
    ofSpans spans = ⟨(mergeSorted [] spans).toArray⟩ := by
  have hfilter : spans.filter (fun s => s.first ≤ s.last) = spans :=
    List.filter_eq_self.mpr fun s hs => decide_eq_true (hproper s hs)
  rw [ofSpans, hfilter, List.mergeSort_of_pairwise]
  simpa using hsorted

theorem ofSpans_singleton {s : Span} (h : s.first ≤ s.last) : ofSpans [s] = ⟨#[s]⟩ :=
  ofSpans_of_sorted (by simpa using h) (List.pairwise_singleton _ _)

theorem contains_span (s : Span) (code : Nat) :
    contains ⟨#[s]⟩ code = decide (s.first ≤ code ∧ code ≤ s.last) := by
  rw [contains]
  grind [search]

theorem contains_codes {a b : Nat} (h : a < b) (code : Nat) :
    contains ⟨#[⟨a, a⟩, ⟨b, b⟩]⟩ code = decide (code = a ∨ code = b) := by
  rw [contains]
  grind [search]

end CodeSet

theorem surrogate_eq : Category.surrogate = ⟨#[⟨0xD800, 0xDFFF⟩]⟩ := by
  have hgroups : hexGroups "D800-DFFF" = [[0xD800, 0xDFFF]] := by
    rw [hexGroups, String.foldl_eq_foldl_toList]
    decide +kernel
  rw [Category.surrogate, CodeSet.ofTable, hgroups]
  exact CodeSet.ofSpans_singleton (by decide)

/-- The spans that are not in a set, and that of the surrogates. -/
def spansOutside (spans : List Span) : List Span := CodeSet.gaps 0 spans ++ [⟨0xD800, 0xDFFF⟩]

/-- A set without surrogates, where the spans outside it are in order. -/
theorem diff_surrogate {spans : List Span} (hproper : ∀ s ∈ spansOutside spans, s.first ≤ s.last)
    (hsorted : (spansOutside spans).Pairwise fun s t => s.first ≤ t.first) :
    CodeSet.diff ⟨spans.toArray⟩ Category.surrogate =
      ⟨(CodeSet.gaps 0 (CodeSet.mergeSorted [] (spansOutside spans))).toArray⟩ := by
  have hunion : CodeSet.union (CodeSet.complement ⟨spans.toArray⟩)
      Category.surrogate.complement.complement = CodeSet.ofSpans (spansOutside spans) := by
    rw [surrogate_eq]
    rfl
  rw [CodeSet.diff, CodeSet.inter, hunion, CodeSet.ofSpans_of_sorted hproper hsorted]
  simp [CodeSet.complement]

end Spreadsheet.Text
