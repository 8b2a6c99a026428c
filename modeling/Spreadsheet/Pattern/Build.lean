import Spreadsheet.Pattern.Basic

/-!
# Building patterns

Patterns are built in a normal form: neighbouring characters make one literal, a set with a single
member is a literal too, nested sequences and choices are joined, a choice between sets is a set,
and what all branches of a choice begin with stands in front of it. A repetition of something that
takes no character needs no more than one round.
-/

namespace Spreadsheet.Pattern

open Spreadsheet.Text

/-- The node that matches one character of a set. Code points that no character has are left out. -/
def Node.ofSet (s : CodeSet) : Node :=
  let whole := s.diff Category.surrogate
  match whole.spans.toList with
  | [span] => if span.first = span.last then .literal [Char.ofNat span.first] else .oneOf whole
  | _ => .oneOf whole

/-- The node that matches nothing. -/
def Node.never : Node := .oneOf .empty

/-- Joins literals that stand side by side. -/
def joinLiterals : List Node → List Node
  | [] => []
  | .literal a :: rest =>
    match joinLiterals rest with
    | .literal b :: rest => .literal (a ++ b) :: rest
    | rest => .literal a :: rest
  | n :: rest => n :: joinLiterals rest

/-- Nodes one behind the other, nested to the right. -/
def sequenceOf : List Node → Node
  | [] => .empty
  | [only] => only
  | first :: rest => .sequence first (sequenceOf rest)

/-- One node behind the other. -/
def Node.ofParts (nodes : List Node) : Node :=
  sequenceOf (joinLiterals (nodes.flatMap Node.parts))

/-- The characters that nodes match, if each is a single character. -/
def singleChars? (nodes : List Node) : Option CodeSet :=
  CodeSet.unions <$> nodes.mapM fun
    | .literal [c] => some (.singleton c.toNat)
    | _ => none

/-- The characters that nodes match, if each is a set. -/
def joinedSets? (nodes : List Node) : Option CodeSet :=
  CodeSet.unions <$> nodes.mapM fun
    | .oneOf set => some set
    | _ => none

/-- A choice between nodes, nested to the right. -/
def choiceOf : List Node → Node
  | [] => .never
  | [only] => only
  | first :: rest => .choice first (choiceOf rest)

/-- A choice between nodes, joined into a set where that is possible. -/
def chooseBetween (nodes : List Node) : Node :=
  match nodes.flatMap Node.branches with
  | [only] => only
  | flat =>
    match singleChars? flat <|> joinedSets? flat with
    | some set => .ofSet set
    | none => choiceOf flat

/-- What two lists begin with alike. -/
def sharedStart (xs ys : List Node) : List Node :=
  ((xs.zip ys).takeWhile fun (x, y) => x = y).map Prod.fst

/-- The parts that all nodes begin with, if each is a sequence. -/
def sharedParts : List Node → List Node
  | [] => []
  | first :: rest =>
    let partsOf := fun n : Node => match n with
      | .sequence _ _ => n.parts
      | _ => []
    rest.foldl (fun shared n => sharedStart shared (partsOf n)) (partsOf first)

/-- A choice between nodes. What they all begin with is written once, in front of the choice. -/
def Node.ofBranches (nodes : List Node) : Node :=
  match chooseBetween nodes with
  | .choice a b =>
    let flat := (Node.choice a b).branches
    let shared := sharedParts flat
    if shared.isEmpty then .choice a b
    else
      let rests := flat.map fun n => Node.ofParts (n.parts.drop shared.length)
      .ofParts (shared ++ [chooseBetween rests])
  | n => n

/-- A repetition. More rounds than one of something that takes no character add nothing. -/
def Node.repeated (body : Node) (least : Nat) (most : Option Nat) (greedy : Bool) : Node :=
  let (least, most) :=
    if body.isZeroWidth then (min least 1, some (min (most.getD 1) 1)) else (least, most)
  if most = some 0 then .empty
  else if least = 1 ∧ most = some 1 then body
  else .repetition body least most greedy

end Spreadsheet.Pattern
