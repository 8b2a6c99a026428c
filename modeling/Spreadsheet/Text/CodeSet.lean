import Spreadsheet.Text.HexTable

/-!
# Sets of code points

A `CodeSet` keeps its members as closed spans, ascending and apart, so that membership is a binary
search. `ofSpans` brings any list of spans into that form; the set operations build on it.
-/

namespace Spreadsheet.Text

/-- A closed span of code points. -/
structure Span where
  first : Nat
  last : Nat
deriving DecidableEq, Repr, Inhabited

/-- A set of code points, as closed spans that are ascending and apart. -/
structure CodeSet where
  spans : Array Span
deriving DecidableEq, Inhabited

namespace CodeSet

/-- The greatest code point. -/
def maxCode : Nat := 0x10FFFF

/-- Joins overlapping and touching neighbours of a list sorted by first member. -/
def mergeSorted : List Span → List Span → List Span
  | merged, [] => merged.reverse
  | [], s :: rest => mergeSorted [s] rest
  | m :: merged, s :: rest =>
    if s.first ≤ m.last + 1 then mergeSorted ({ m with last := max m.last s.last } :: merged) rest
    else mergeSorted (s :: m :: merged) rest

/-- The set of all members of the given spans; a span that ends before it starts has none. -/
def ofSpans (spans : List Span) : CodeSet :=
  let proper := spans.filter fun s => s.first ≤ s.last
  ⟨(mergeSorted [] (proper.mergeSort fun a b => a.first ≤ b.first)).toArray⟩

/-- Reads a set from a table of single code points (`5F`) and spans (`41-5A`). -/
def ofTable (table : String) : CodeSet :=
  ofSpans <| (hexGroups table).filterMap fun
    | [only] => some ⟨only, only⟩
    | [first, last] => some ⟨first, last⟩
    | _ => none

/-- The set without members. -/
def empty : CodeSet := ⟨#[]⟩

/-- The set of all code points. -/
def all : CodeSet := ⟨#[⟨0, maxCode⟩]⟩

/-- The set with one member. -/
def singleton (code : Nat) : CodeSet := ⟨#[⟨code, code⟩]⟩

/-- Looks for `code` among the spans with index from `low` up to `high`. -/
def search (spans : Array Span) (code low high : Nat) : Bool :=
  if low < high then
    let middle := (low + high) / 2
    match spans[middle]? with
    | none => false
    | some span =>
      if code < span.first then search spans code low middle
      else if span.last < code then search spans code (middle + 1) high
      else true
  else false
termination_by high - low

/-- Whether the code point is a member. -/
def contains (s : CodeSet) (code : Nat) : Bool :=
  search s.spans code 0 s.spans.size

/-- The members of either set. -/
def union (s t : CodeSet) : CodeSet :=
  ofSpans (s.spans.toList ++ t.spans.toList)

/-- The members of any of the sets. -/
def unions (sets : List CodeSet) : CodeSet :=
  ofSpans (sets.flatMap fun s => s.spans.toList)

/-- The spans between those of an ascending list, from `next` up to the greatest code point. -/
def gaps (next : Nat) : List Span → List Span
  | [] => if next ≤ maxCode then [⟨next, maxCode⟩] else []
  | s :: rest =>
    if next < s.first then ⟨next, s.first - 1⟩ :: gaps (s.last + 1) rest
    else gaps (s.last + 1) rest

/-- The code points that are no members. -/
def complement (s : CodeSet) : CodeSet :=
  ⟨(gaps 0 s.spans.toList).toArray⟩

/-- The members of both sets. -/
def inter (s t : CodeSet) : CodeSet :=
  (s.complement.union t.complement).complement

/-- The members of the first set that are not in the second. -/
def diff (s t : CodeSet) : CodeSet :=
  s.inter t.complement

/-- The members of exactly one of the sets. -/
def symmDiff (s t : CodeSet) : CodeSet :=
  (s.union t).diff (s.inter t)

/-- Whether the set has no members. -/
def isEmpty (s : CodeSet) : Bool := s.spans.isEmpty

end CodeSet

end Spreadsheet.Text
