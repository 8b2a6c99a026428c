/-!
# Tables written as hexadecimal text

The character data of this library is kept as text: groups of hexadecimal numbers, the groups apart
by white space and the numbers of a group apart by any other mark, as in `41-5A C0-D6` or
`DF=53,53`. `hexGroups` reads such a text. It is total, so a table is a plain value.
-/

namespace Spreadsheet.Text

/-- The value of a hexadecimal digit of either case. -/
def hexDigit? (c : Char) : Option Nat :=
  if '0' ≤ c ∧ c ≤ '9' then some (c.toNat - '0'.toNat)
  else if 'A' ≤ c ∧ c ≤ 'F' then some (c.toNat - 'A'.toNat + 10)
  else if 'a' ≤ c ∧ c ≤ 'f' then some (c.toNat - 'a'.toNat + 10)
  else none

/-- What has been read of a table: whole groups, the numbers of the open group, and the open
number, each with the latest first. -/
private structure HexReader where
  groups : List (List Nat) := []
  group : List Nat := []
  number : Option Nat := none

private def HexReader.closeNumber (r : HexReader) : HexReader :=
  match r.number with
  | some n => { r with group := n :: r.group, number := none }
  | none => r

private def HexReader.closeGroup (r : HexReader) : HexReader :=
  let r := r.closeNumber
  match r.group with
  | [] => r
  | group => { r with groups := group.reverse :: r.groups, group := [] }

private def HexReader.step (r : HexReader) (c : Char) : HexReader :=
  match hexDigit? c with
  | some d => { r with number := some (16 * r.number.getD 0 + d) }
  | none => if c = ' ' ∨ c = '\n' then r.closeGroup else r.closeNumber

/-- The groups of numbers that a table's text lists, in order. -/
def hexGroups (table : String) : List (List Nat) :=
  (table.foldl HexReader.step {}).closeGroup.groups.reverse

end Spreadsheet.Text
