import Spreadsheet.Command.Files
import Spreadsheet.Command.Options
import Spreadsheet.Markdown
import Spreadsheet.Settings
import Spreadsheet.Snapshot.Json

/-!
# Running the program

A run reads the settings, opens a snapshot or starts a new sheet, makes the edits in order,
recalculates, shows the value of a formula, and writes the sheet. Nothing is written unless all that
comes before has succeeded.
-/

namespace Spreadsheet.Command

/-! ## Failures -/

/-- Why a run fails. -/
inductive Failure where
  | settingsFile (path : String) (error : FileError)
  | settingsTooLarge (path : String) (size : Nat)
  | settings (path : String) (error : Settings.Error)
  | snapshotFile (path : String) (error : FileError)
  | snapshot (path : String) (error : Snapshot.Error)
  | edit (change : Edit) (error : Document.Error)
  | writeSnapshot (error : FileError)
  | writeMarkdown (error : FileError)
deriving DecidableEq, Repr

/-- The text of something that went wrong with a file, with its cause. -/
def fileMessage (cause : String) : String := s!"IO error: {cause}: {cause}"

/-- The text of a failure. -/
def Failure.message : Failure → String
  | .settingsFile path e => s!"failed to load config {path}: {fileMessage e.message}"
  | .settingsTooLarge path size =>
    let cause := s!"Refusing to read {path}: config file too large ({size} bytes, max " ++
      s!"{Settings.maxFileSize})"
    s!"failed to load config {path}: {fileMessage cause}"
  | .settings path e => s!"failed to load config {path}: {e.message}"
  | .snapshotFile path e => s!"failed to open {path}: {fileMessage e.message}"
  | .snapshot path e => s!"failed to open {path}: {e.message}"
  | .edit change e => s!"failed to apply {change.text}: {e.message}"
  | .writeSnapshot e => fileMessage e.message
  | .writeMarkdown e => e.message

/-- What a run prints, and the code it exits with. The log that can be asked for goes to the same
place as the errors; its lines are left out here. -/
structure Report where
  output : String
  errors : String
  code : Nat
deriving DecidableEq, Repr

/-- The report of a run that fails. -/
def Report.failure (output message : String) : Report := ⟨output, s!"Error: {message}\n", 1⟩

/-! ## The steps of a run -/

/-- The sheet with edits made in order. -/
def applyEdits (d : Document) (edits : List Edit) : Except Failure Document :=
  edits.foldlM (fun d change => (change.apply d).mapError (.edit change)) d

/-- What is shown of a formula, of which the equals sign may be missing. -/
def answer (d : Document) (command : String) (anchor : Option Position) : String :=
  let formula := match command.toList with
    | '=' :: _ => command
    | _ => "=" ++ command
  (d.evaluate formula (anchor.getD .origin)).display

/-- What is printed for a formula, if one is asked for. -/
def answerLine (d : Document) (o : Options) : String :=
  match o.command with
  | some command => answer d command o.anchor ++ "\n"
  | none => ""

/-- Whether a path asks for Markdown. -/
def isMarkdown (path : String) : Bool :=
  match extension? path with
  | some ext => Text.upperAscii ext.toList = ['M', 'D']
  | none => false

section

variable {m : Type → Type} [Monad m]

/-- The settings in a file. -/
def readSettings (files : Access m) (path : String) : m (Except Failure Settings) := do
  match ← files.size path with
  | .error e => return .error (.settingsFile path e)
  | .ok size =>
    if size > Settings.maxFileSize then return .error (.settingsTooLarge path size)
    match ← files.read path with
    | .error e => return .error (.settingsFile path e)
    | .ok text => return (Settings.read text).mapError (.settings path)

/-- The settings that a run uses: those in the file that is asked for, else those in the user's
file if there is one, else the usual ones. -/
def findSettings (files : Access m) (usersFile : Option String) (o : Options) :
    m (Except Failure Settings) := do
  match o.settings, usersFile with
  | some path, _ => readSettings files path
  | none, some path => if ← files.isFile path then readSettings files path else return .ok {}
  | none, none => return .ok {}

/-- The sheet that a run starts from. -/
def openDocument (files : Access m) (settings : Settings) (o : Options) :
    m (Except Failure Document) := do
  match o.file with
  | none => return .ok settings.newDocument
  | some path =>
    match ← files.read path with
    | .error e => return .error (.snapshotFile path e)
    | .ok text => return (Snapshot.read text).mapError (.snapshot path)

/-- The sheet that a run ends with. -/
def finalDocument (files : Access m) (usersFile : Option String) (o : Options) :
    m (Except Failure Document) := do
  match ← findSettings files usersFile o with
  | .error e => return .error e
  | .ok settings =>
    match ← openDocument files settings o with
    | .error e => return .error e
    | .ok d => return (applyEdits d o.edits).map Document.recalculate

/-- Writes a sheet to a file, as Markdown or as a snapshot. -/
def writeDocument (files : Access m) (d : Document) (path : String) : m (Except Failure Unit) := do
  if isMarkdown path then
    return (← files.write path (Markdown.render d)).mapError .writeMarkdown
  else
    return (← files.write path (Snapshot.write d)).mapError .writeSnapshot

/-- Shows and writes a sheet. -/
def finish (files : Access m) (o : Options) (d : Document) : m Report := do
  let shown := answerLine d o
  match o.output with
  | none => return ⟨if o.command.isSome then shown else Markdown.render d, "", 0⟩
  | some path =>
    match ← writeDocument files d path with
    | .error e => return .failure shown e.message
    | .ok () => return ⟨if o.command.isSome then shown else s!"Exported to {path}\n", "", 0⟩

/-- Runs the program with options. -/
def runOptions (files : Access m) (usersFile : Option String) (o : Options) : m Report := do
  match ← finalDocument files usersFile o with
  | .error e => return .failure "" e.message
  | .ok d => finish files o d

/-- Runs the program with arguments. `usersFile` is the path of the user's settings file. -/
def run (files : Access m) (usersFile : Option String) (args : List String) : m Report := do
  match Options.ofArguments args with
  | .error e =>
    return ⟨"", (if e.showsUsage then usage else "") ++ s!"Error: {e.message}\n", 1⟩
  | .ok none => return ⟨"", usage, 0⟩
  | .ok (some o) => runOptions files usersFile o

end

end Spreadsheet.Command
