import Spreadsheet.Cell.Value

/-!
# Cells

A cell has a value, the formula that the value came from if there is one, and a format if one was
given. A cell with none of the three is blank.
-/

namespace Spreadsheet

/-- How a cell is presented. Attributes that are not set are left to the program that shows it. -/
structure Format where
  bold : Option Bool := none
  italic : Option Bool := none
  color : Option String := none
  background : Option String := none
  fontSize : Option Float := none
deriving DecidableEq, Inhabited

/-- The format with the attributes that `patch` sets laid over it. -/
def Format.overlay (base patch : Format) : Format where
  bold := patch.bold <|> base.bold
  italic := patch.italic <|> base.italic
  color := patch.color <|> base.color
  background := patch.background <|> base.background
  fontSize := patch.fontSize <|> base.fontSize

/-- Equality of optional numbers, compared as numbers. -/
def sameNumber? : Option Float → Option Float → Bool
  | none, none => true
  | some x, some y => x == y
  | _, _ => false

/-- Equality of formats, with sizes compared as numbers. -/
def Format.same (f g : Format) : Bool :=
  f.bold == g.bold && f.italic == g.italic && f.color == g.color && f.background == g.background
    && sameNumber? f.fontSize g.fontSize

/-- A cell of the grid. The value of a cell with a formula is the last result of the formula. -/
structure Cell where
  value : Value := .empty
  formula : Option String := none
  format : Option Format := none
deriving DecidableEq, Inhabited

namespace Cell

/-- A cell with a formula that has not been evaluated: it shows the formula. -/
def ofFormula (formula : String) : Cell := { value := .text formula, formula := some formula }

/-- The cell that an input typed into it makes: a formula if it starts with an equals sign, else a
value. -/
def ofInput (input : String) : Cell :=
  match input.toList with
  | '=' :: _ => ofFormula input
  | _ => { value := .ofInput input }

/-- Whether the cell holds nothing at all. -/
def isBlank (c : Cell) : Bool := c.value.isEmpty && c.formula.isNone && c.format.isNone

/-- The text to edit: the formula, or the value as it is shown. -/
def inputText (c : Cell) : String := c.formula.getD c.value.display

/-- Equality of cells, with numbers compared as numbers. -/
def same (c d : Cell) : Bool :=
  c.value.same d.value && c.formula == d.formula &&
    match c.format, d.format with
    | none, none => true
    | some f, some g => f.same g
    | _, _ => false

end Cell

end Spreadsheet
