import Spreadsheet.Text.Split

/-!
# Access to files

What the program does with files: it asks whether one exists and how long it is, reads one, and
writes one. `Access` says how that is done, so that the same program runs on the files of a system
and on a `Folder` that is a plain value.
-/

namespace Spreadsheet.Command

/-- Why a file cannot be read or written. -/
inductive FileError where
  | missing
  | isFolder
  | notFolder
  | other (description : String)
deriving DecidableEq, Repr

/-- The text of an error, with its number. -/
def FileError.message : FileError → String
  | .missing => "No such file or directory (os error 2)"
  | .isFolder => "Is a directory (os error 21)"
  | .notFolder => "Not a directory (os error 20)"
  | .other description => description

/-- How files are reached. -/
structure Access (m : Type → Type) where
  /-- Whether there is a file. -/
  isFile : String → m Bool
  /-- The length of a file in bytes. -/
  size : String → m (Except FileError Nat)
  /-- The text in a file. -/
  read : String → m (Except FileError String)
  /-- Makes a file hold a text. -/
  write : String → String → m (Except FileError Unit)

/-! ## Paths -/

/-- The parts of a path between its slashes. -/
def pathParts (path : String) : List String :=
  (Text.split '/' path.toList).map String.ofList

/-- The name that a path ends in; `none` if it ends in a way up. -/
def fileName? (path : String) : Option String :=
  match (pathParts path).filter (fun part => part ≠ "" ∧ part ≠ ".") |>.getLast? with
  | some ".." => none
  | name => name

/-- What follows the last dot of a file name, unless nothing precedes the dot. -/
def extension? (path : String) : Option String :=
  match (fileName? path).map fun name => (Text.split '.' name.toList) with
  | some ([] :: [_]) => none
  | some (_ :: part :: rest) => some (String.ofList ((part :: rest).getLastD []))
  | _ => none

end Spreadsheet.Command
