import Spreadsheet.Command.Run

/-!
# The program

The files of the system, the place of the user's settings, and the program that runs with them.
-/

namespace Spreadsheet.Command

/-- What is wrong with a file, from an error of the system. -/
def FileError.ofError (e : IO.Error) : FileError :=
  match e with
  | .noFileOrDirectory .. => .missing
  | .inappropriateType _ 20 _ => .notFolder
  | .inappropriateType _ 21 _ => .isFolder
  | _ => .other (toString e)

/-- What an action comes to, its errors as values. -/
def attempt {α : Type} (action : IO α) : IO (Except FileError α) := do
  try
    return .ok (← action)
  catch e =>
    return .error (.ofError e)

/-- The text that bytes encode. -/
def textOfBytes (bytes : ByteArray) : Except FileError String :=
  match String.fromUTF8? bytes with
  | some text => .ok text
  | none => .error (.other "stream did not contain valid UTF-8")

/-- Access to the files of the system. -/
def systemAccess : Access IO where
  isFile path := do
    match ← attempt (IO.FS.readBinFile path) with
    | .ok _ => return true
    | .error (.other _) => return true
    | .error _ => return false
  size path := return (← attempt (IO.FS.readBinFile path)).map ByteArray.size
  read path := return (← attempt (IO.FS.readBinFile path)).bind textOfBytes
  write path text := attempt (IO.FS.writeFile path text)

/-- The path of the user's settings file, below the folder for settings or else the home folder. -/
def usersFile? (settingsHome home : Option String) : Option String :=
  match settingsHome.filter (·.startsWith "/"), home.filter (· ≠ "") with
  | some folder, _ => some (folder ++ "/sheetopia/config.toml")
  | none, some folder => some (folder ++ "/.config/sheetopia/config.toml")
  | none, none => none

end Spreadsheet.Command

/-- Runs the program on the files of the system. -/
def main (args : List String) : IO UInt32 := do
  let usersFile := Spreadsheet.Command.usersFile? (← IO.getEnv "XDG_CONFIG_HOME")
    (← IO.getEnv "HOME")
  let report ← Spreadsheet.Command.run Spreadsheet.Command.systemAccess usersFile args
  IO.print report.output
  IO.eprint report.errors
  return report.code.toUInt32
