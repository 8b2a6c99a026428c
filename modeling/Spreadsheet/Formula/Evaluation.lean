import Spreadsheet.Builtin
import Spreadsheet.Formula.Body
import Spreadsheet.Formula.Range
import Spreadsheet.Formula.Substitution

/-!
# Evaluating formulas

`evaluate?` gives the value of a formula written in the cell at an anchor, or says what is wrong
with it; `evaluate` shows what is wrong as a text. A text that is no formula is its own value.
-/

namespace Spreadsheet.Formula

/-- The value of a call of an aggregate. A result that is not finite counts as zero. -/
def callAggregate (f : List Value → Float) (parameters : List (List Char)) (view : View)
    (anchor : Position) : Except Error Value :=
  (parametersValues parameters view anchor).map fun values =>
    .number (if (f values).isFinite then f values else 0)

/-- The value of a call of a text function, whose one parameter is a reference. Values other than
texts stay as they are. -/
def callText (name : List Char) (f : List Char → List Char) (parameters : List (List Char))
    (view : View) (anchor : Position) : Except Error Value :=
  match parameters with
  | [parameter] =>
    match Reference.parseAt? parameter anchor with
    | some r =>
      match referencedValue r view anchor with
      | .text s => .ok (.text (String.ofList (f s.toList)))
      | value => .ok value
    | none => .error (.requiresCellReference (String.ofList name))
  | _ => .error (.requiresCellReference (String.ofList name))

/-- The value of a call. -/
def call (name : List Char) (parameters : List (List Char)) (view : View) (anchor : Position) :
    Except Error Value :=
  match (Builtin.named? (String.ofList name)).map Builtin.action with
  | none => .error (.unknownFunction (String.ofList name))
  | some (.aggregate f) => callAggregate f parameters view anchor
  | some (.text f) => callText name f parameters view anchor

/-- The value of a text that is no formula: nothing if it is blank, else the text. -/
def literal (text : String) : Value :=
  if (Text.trim text.toList).isEmpty then .empty else .text text

/-- The value of a formula in the cell at an anchor. -/
def evaluate? (formula : String) (view : View) (anchor : Position) : Except Error Value :=
  match body? formula with
  | none => .ok (literal formula)
  | some (.arithmetic text) => .ok (.number (arithmetic text view anchor))
  | some (.call name args) => call name (parameters args) view anchor

/-- The value that a cell with a formula shows: its value, or what is wrong with it. -/
def evaluate (formula : String) (view : View) (anchor : Position) : Value :=
  match evaluate? formula view anchor with
  | .ok value => value
  | .error e => .text ("Error: " ++ e.message)

end Spreadsheet.Formula
