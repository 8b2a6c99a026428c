import Spreadsheet.Pattern.Basic

/-!
# Formula errors

What can be wrong with a formula, apart from arithmetic that comes to nothing, and with the pattern
of a replacement. The error of a formula is shown in the cell as a text.
-/

namespace Spreadsheet.Formula

/-- Why a formula has no value, or a replacement cannot be made. -/
inductive Error where
  | invalidRange (token : String)
  | invalidReference (token : String)
  | unknownFunction (name : String)
  | requiresCellReference (name : String)
  | invalidPattern (error : Pattern.Error)
deriving DecidableEq, Repr

/-- The text of an error. What is wrong with a pattern is not explained. -/
def Error.message : Error → String
  | .invalidRange token => "Invalid range: " ++ token
  | .invalidReference token => "Invalid reference: " ++ token
  | .unknownFunction name => "Unknown function " ++ name
  | .requiresCellReference name => name ++ " requires a cell reference"
  | .invalidPattern _ => "Invalid pattern"

end Spreadsheet.Formula
