import Spreadsheet.Json.Basic
import Spreadsheet.Numeric.Numeral
import Std.Data.ExtTreeMap

/-!
# What JSON values stand for

Each function here asks a value for what it stands for, and answers `none` if the value is of
another kind.
-/

namespace Spreadsheet.Json

/-- The truth value that a value is. -/
def bool? : Json → Option Bool
  | .bool b => some b
  | _ => none

/-- The text that a value is. -/
def text? : Json → Option String
  | .string raw => (unescape? raw).map String.ofList
  | _ => none

/-- The number that a value is, unless it is too large for a finite one. -/
def float? : Json → Option Float
  | .number literal => (Numeric.readNumber? literal).filter Float.isFinite
  | _ => none

/-- The index that a value is: a number written with digits only. -/
def index? : Json → Option Nat
  | .number literal => Numeric.readIndex? literal
  | _ => none

/-- What `read` finds in a value, and nothing for null. -/
def nullable? {α : Type} (read : Json → Option α) : Json → Option (Option α)
  | .null => some none
  | value => (read value).map some

/-- What `read` finds in a value that may be missing or null. -/
def optional? {α : Type} (read : Json → Option α) : Option Json → Option (Option α)
  | some value => nullable? read value
  | none => some none

/-- What `read` finds in a value, and the usual for one that is missing. -/
def withUsual? {α : Type} (usual : α) (read : Json → Option α) : Option Json → Option α
  | some value => read value
  | none => some usual

/-- The only entry of a list under a key, if there is one; no answer if there are several. -/
def only? {α : Type} (name : String) (entries : List (String × α)) : Option (Option α) :=
  match entries.filter (·.1 = name) with
  | [] => some none
  | [(_, value)] => some (some value)
  | _ => none

/-- The values of the named fields of a record. A record is an object, in which other members do not
count and no field may be repeated, or an array of the first fields in order. -/
def fields? (names : List String) : Json → Option (List (Option Json))
  | .object members => do
    let entries ← members.mapM fun (key, value) =>
      (unescape? key).map fun key => (String.ofList key, value)
    names.mapM (only? · entries)
  | .array items =>
    if items.length ≤ names.length then some (names.mapIdx fun i _ => items[i]?) else none
  | _ => none

/-- The entries of a map, of which the last one counts for a repeated key. -/
def map? {κ α : Type} {order : κ → κ → Ordering} [Std.TransCmp order]
    (readKey : List Char → Option κ) (read : Json → Option α) :
    Json → Option (Std.ExtTreeMap κ α order)
  | .object members => do
    let entries ← members.mapM fun (key, value) => do
      return (← readKey key, ← read value)
    return .ofList entries order
  | _ => none

/-- The text that a key is. -/
def textKey? (raw : List Char) : Option String := (unescape? raw).map String.ofList

/-- The index that a key is: digits without a superfluous zero in front. -/
def indexKey? (raw : List Char) : Option Nat :=
  match raw with
  | ['0'] => some 0
  | '0' :: _ => none
  | '+' :: _ => none
  | _ => Numeric.readIndex? raw

end Spreadsheet.Json
