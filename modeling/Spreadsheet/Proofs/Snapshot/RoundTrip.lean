import Spreadsheet.Proofs.Document.WellFormed
import Spreadsheet.Proofs.Snapshot.Acceptance
import Spreadsheet.Proofs.Snapshot.Encoding

/-!
# Stored documents

A well-formed document with finite numbers, of a size that an index can count, is read back from its
text (`read_write`). So is every document at the end of a run (`read_write_run`). The cells come in
the order of their keys, which is not that of their positions.
-/

namespace Spreadsheet

variable {d : Document}

namespace Snapshot

/-! ## Keys -/

theorem writesPadded_digitChars {n : Nat} (hn : n ≤ Numeric.maxIndex) :
    WritesPadded (Numeric.digitChars n) n :=
  ⟨[], Numeric.digitChars n, [], (List.append_nil _).symm, nofun, nofun,
    Numeric.readIndex?_eq_some_iff.mp (Json.readIndex?_digitChars hn)⟩

theorem position?_key {p : Position} (hr : p.row ≤ Numeric.maxIndex)
    (hc : p.col ≤ Numeric.maxIndex) : position? (key p) = some p :=
  position?_eq_some_iff.mpr
    ⟨_, _, String.toList_ofList, writesPadded_digitChars hr, writesPadded_digitChars hc⟩

/-! ## Snapshots of documents -/

/-- Whether the positions that a document stores are read back from their keys. -/
def Keyed (d : Document) : Prop :=
  ∀ (p : Position) (c : Cell), d.cells[p]? = some c → position? (key p) = some p

theorem keyed (h : d.WellFormed) (hr : d.rows ≤ Numeric.maxIndex)
    (hc : d.cols ≤ Numeric.maxIndex) : Keyed d := by
  intro p _ hp
  have hi := Document.inside_iff.mp (h.inside hp)
  exact position?_key (by omega) (by omega)

/-- What the snapshot of a document stores under a key. -/
theorem getElem?_cells_ofDocument (hk : Keyed d) {k : String} {c : Cell} :
    (ofDocument d).cells[k]? = some c ↔ ∃ p, key p = k ∧ d.cells[p]? = some c := by
  have hm : ∀ {x}, (k, x) ∈ (d.cells.toList.map fun e => (key e.1, e.2)) ↔
      ∃ p, key p = k ∧ d.cells[p]? = some x := by
    intro x
    simp only [List.mem_map, Prod.exists, Std.ExtTreeMap.mem_toList_iff_getElem?_eq_some,
      Prod.mk.injEq]
    constructor
    · rintro ⟨p, c, hp, rfl, rfl⟩
      exact ⟨p, rfl, hp⟩
    · rintro ⟨p, rfl, hp⟩
      exact ⟨p, x, hp, rfl, rfl⟩
  have hl : ∀ {y}, (k, c) ∈ (d.cells.toList.map fun e => (key e.1, e.2)) →
      (k, y) ∈ (d.cells.toList.map fun e => (key e.1, e.2)) → c = y := by
    intro y hc hy
    obtain ⟨p, rfl, hp⟩ := hm.mp hc
    obtain ⟨q, hq, hy'⟩ := hm.mp hy
    obtain rfl : q = p := Option.some.inj ((hk q y hy').symm.trans (hq ▸ hk p c hp))
    exact Option.some.inj (hp.symm.trans hy')
  exact (getElem?_ofList_iff hl).trans hm

/-- The entries of the snapshot, by position, make the cells again. -/
theorem putCells_ofDocument (h : d.WellFormed) (hk : Keyed d) :
    Document.putCells ∅ (ofDocument d).entries = d.cells := by
  have hm : ∀ e, e ∈ (ofDocument d).entries ↔ e ∈ d.cells.toList := by
    rintro ⟨q, c⟩
    simp only [mem_entries, getElem?_cells_ofDocument hk, ← position?_eq_some_iff,
      Std.ExtTreeMap.mem_toList_iff_getElem?_eq_some]
    constructor
    · rintro ⟨k, ⟨p, rfl, hp⟩, hq⟩
      rwa [← Option.some.inj ((hk _ _ hp).symm.trans hq)]
    · intro hq
      exact ⟨key q, ⟨q, rfl, hq⟩, hk q c hq⟩
  refine Std.ExtTreeMap.ext_getElem? fun q => ?_
  rw [Document.getElem?_putCells, lastOf_eq_getElem? hm]
  cases hq : d.cells[q]? with
  | none => rfl
  | some c => exact if_neg (by simp [h.notBlank hq])

theorem loadable_ofDocument (h : d.WellFormed) (hk : Keyed d) : (ofDocument d).Loadable where
  rows := h.length_pos .row
  cols := h.length_pos .column
  cells hc := by
    obtain ⟨p, rfl, hp⟩ := (getElem?_cells_ofDocument hk).mp hc
    exact ⟨p, position?_eq_some_iff.mp (hk p _ hp), Document.inside_iff.mp (h.inside hp)⟩
  widths := @Document.WellFormed.sized _ h .column
  heights := @Document.WellFormed.sized _ h .row

theorem document_ofDocument (h : d.WellFormed) (hr : d.rows ≤ Numeric.maxIndex)
    (hc : d.cols ≤ Numeric.maxIndex) : (ofDocument d).document = .ok d := by
  have hk := keyed h hr hc
  refine document_eq_ok_iff.mpr ⟨loadable_ofDocument h hk, ?_⟩
  rw [putCells_ofDocument h hk]
  rfl

theorem isFinite_ofDocument (hf : d.IsFinite) (hk : Keyed d) : (ofDocument d).IsFinite where
  cells h := by
    obtain ⟨p, -, hp⟩ := (getElem?_cells_ofDocument hk).mp h
    exact hf.cells hp
  widths := @Document.IsFinite.sizes _ hf .column
  heights := @Document.IsFinite.sizes _ hf .row

theorem indexed_ofDocument (h : d.WellFormed) (hr : d.rows ≤ Numeric.maxIndex)
    (hc : d.cols ≤ Numeric.maxIndex) : (ofDocument d).Indexed where
  rows := hr
  cols := hc
  widths hx := Nat.le_trans (Nat.le_of_lt (@Document.WellFormed.sized _ h .column _ _ hx)) hc
  heights hx := Nat.le_trans (Nat.le_of_lt (@Document.WellFormed.sized _ h .row _ _ hx)) hr

/-- A document is read back from its text. -/
theorem read_write (h : d.WellFormed) (hf : d.IsFinite) (hr : d.rows ≤ Numeric.maxIndex)
    (hc : d.cols ≤ Numeric.maxIndex) : read (write d) = .ok d := by
  obtain ⟨hp, hj⟩ :=
    encodes_toJson (isFinite_ofDocument hf (keyed h hr hc)) (indexed_ofDocument h hr hc)
  rw [read, write, Json.parse?_text hp, Option.bind_some, hj]
  exact document_ofDocument h hr hc

end Snapshot

namespace Document

/-- A document that was edited with finite numbers only holds finite numbers only and is read back
from its text, as long as its rows and columns can be counted by an index, at the end and after
every insertion. -/
theorem read_write_run {o : Origin} (ho : o.IsFinite) (h : o.document = .ok d)
    (os : List Operation) (hos : ∀ o ∈ os, o.IsFinite) (hroom : AllAlong FindsRoom d os)
    (hr : (d.run os).rows ≤ Numeric.maxIndex) (hc : (d.run os).cols ≤ Numeric.maxIndex) :
    (d.run os).IsFinite ∧ Snapshot.read (Snapshot.write (d.run os)) = .ok (d.run os) := by
  have hw := (WellFormed.of_origin h).run hroom
  have hf := isFinite_run ho h os hos
  exact ⟨hf, Snapshot.read_write hw hf hr hc⟩

/-- Edits with a product that is too large, a width of minus zero, and a format that says
nothing. -/
def edits : List Operation :=
  [.setInput ⟨0, 0⟩ "1e300", .setInput ⟨0, 1⟩ "=A1*A1", .setSize .column 1 (-0.0),
    .setFormat ⟨1, 1⟩ {}, .insert .row 1, .recalculate]

theorem read_write_run_of_edits :
    AllAlong FindsRoom (empty 2 2) edits ∧ ((empty 2 2).run edits).IsFinite ∧
      Snapshot.read (Snapshot.write ((empty 2 2).run edits)) = .ok ((empty 2 2).run edits) := by
  have hroom : AllAlong FindsRoom (empty 2 2) edits := by
    refine allAlong_findsRoom fun axis => ?_
    cases axis <;> decide
  refine ⟨hroom, @read_write_run (empty 2 2) (.empty 2 2) trivial rfl edits ?_ hroom
    (by decide +kernel) (by decide +kernel)⟩
  simp only [edits, List.forall_mem_cons]
  exact ⟨trivial, trivial, (by decide +kernel : (-0.0 : Float).isFinite), nofun, trivial, trivial,
    nofun⟩

end Document

end Spreadsheet
