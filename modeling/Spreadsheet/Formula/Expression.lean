import Spreadsheet.Formula.Token

/-!
# Arithmetic expressions

Expressions follow the grammar

    Sum     ::= Product (("+" | "-") Product)*
    Product ::= Operand (("*" | "/") Operand)*
    Operand ::= Number | ("+" | "-") Operand | "(" Sum ")"

so that operations of one kind are joined from the left. Signs and parentheses nest, and both the
nesting and the length of a text are bounded.
-/

namespace Spreadsheet.Formula

/-- An operation on two numbers. -/
inductive Operator where
  | add
  | subtract
  | multiply
  | divide
deriving DecidableEq, Repr

/-- The result of an operation. -/
def Operator.apply : Operator → Float → Float → Float
  | .add, x, y => x + y
  | .subtract, x, y => x - y
  | .multiply, x, y => x * y
  | .divide, x, y => x / y

/-- The operator of a sum that a token is. -/
def Token.sumOperator? : Token → Option Operator
  | .plus => some .add
  | .minus => some .subtract
  | _ => none

/-- The operator of a product that a token is. -/
def Token.productOperator? : Token → Option Operator
  | .star => some .multiply
  | .slash => some .divide
  | _ => none

/-- An expression as it was read. -/
inductive Expression where
  | number (x : Float)
  | signed (negative : Bool) (operand : Expression)
  | group (inner : Expression)
  | binary (operator : Operator) (left right : Expression)
deriving DecidableEq, Repr

namespace Expression

/-- The value of an expression, which may be infinite or no number. -/
def value : Expression → Float
  | .number x => x
  | .signed negative operand => if negative then -operand.value else operand.value
  | .group inner => inner.value
  | .binary operator left right => operator.apply left.value right.value

/-- How deep signs and parentheses nest. -/
def depth : Expression → Nat
  | .number _ => 0
  | .signed _ operand => operand.depth + 1
  | .group inner => inner.depth + 1
  | .binary _ left right => max left.depth right.depth

/-- Reads an expression from the start of a list of tokens and returns what follows it. -/
abbrev Reader := List Token → Option (Expression × List Token)

/-- Continues a chain of operations from its left operand; at most `fuel` of them are read. -/
def chainFrom (operator? : Token → Option Operator) (operand : Reader) :
    Nat → Expression → Reader
  | 0, left, tokens => some (left, tokens)
  | _ + 1, left, [] => some (left, [])
  | fuel + 1, left, token :: tokens =>
    match operator? token with
    | none => some (left, token :: tokens)
    | some operator =>
      match operand tokens with
      | none => none
      | some (right, rest) => chainFrom operator? operand fuel (.binary operator left right) rest

/-- Reads operands with operators between them, joined from the left. -/
def chain (operator? : Token → Option Operator) (operand : Reader) : Reader := fun tokens =>
  match operand tokens with
  | none => none
  | some (left, rest) => chainFrom operator? operand rest.length left rest

/-- Reads a product of operands. -/
def product (operand : Reader) : Reader := chain Token.productOperator? operand

/-- Reads a sum of products of operands. -/
def sum (operand : Reader) : Reader := chain Token.sumOperator? (product operand)

/-- Reads an operand in which signs and parentheses nest at most `levels` deep. -/
def operand : (levels : Nat) → Reader
  | _, .number x :: rest => some (.number x, rest)
  | levels + 1, .plus :: rest =>
    (operand levels rest).map fun (inner, rest) => (.signed false inner, rest)
  | levels + 1, .minus :: rest =>
    (operand levels rest).map fun (inner, rest) => (.signed true inner, rest)
  | levels + 1, .opening :: rest =>
    match sum (operand levels) rest with
    | some (inner, .closing :: rest) => some (.group inner, rest)
    | _ => none
  | _, _ => none

/-- The deepest nesting that is read. -/
def maxDepth : Nat := 64

/-- The expression that a list of tokens is, all of it. -/
def ofTokens? (tokens : List Token) : Option Expression :=
  match sum (operand maxDepth) tokens with
  | some (expression, []) => some expression
  | _ => none

/-- The greatest length of a text that is read, in bytes. -/
def maxLength : Nat := 8192

/-- The expression that a text writes. -/
def ofText? (text : String) : Option Expression :=
  if text.utf8ByteSize ≤ maxLength then (tokens? text.toList).bind ofTokens? else none

end Expression

/-- The number that a text without references comes to; `none` if it is no expression or has no
finite value. -/
def numberOf? (text : String) : Option Float :=
  ((Expression.ofText? text).map Expression.value).filter Float.isFinite

end Spreadsheet.Formula
