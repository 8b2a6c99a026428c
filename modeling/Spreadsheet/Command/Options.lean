import Spreadsheet.Command.Edit

/-!
# Options

The arguments of the program are options, most of them with a value, and the name of a snapshot to
open. They are read from the left: edits add up, and of the other options the last one counts.
-/

namespace Spreadsheet.Command

/-- What the arguments ask for. -/
structure Options where
  file : Option String := none
  command : Option String := none
  anchor : Option Position := none
  edits : List Edit := []
  output : Option String := none
  settings : Option String := none
deriving DecidableEq, Repr

/-- Why arguments cannot be understood. -/
inductive Misuse where
  | missingValue (option : String)
  | invalidCell (text : String)
  | invalidRow (text : String)
  | invalidColumn (text : String)
  | invalidSet (text : String)
  | unknownOption (text : String)
  | unexpectedArgument (text : String)
deriving DecidableEq, Repr

namespace Misuse

/-- The text of a misuse. -/
def message : Misuse → String
  | .missingValue option => option ++ " requires a value"
  | .invalidCell text => "Invalid cell: " ++ text
  | .invalidRow text => "Invalid row number: " ++ text
  | .invalidColumn text => "Invalid column: " ++ text
  | .invalidSet text => "--set expects <CELL>=<INPUT>, got " ++ text
  | .unknownOption text => "Unknown option: " ++ text
  | .unexpectedArgument text => "Unexpected argument: " ++ text

/-- Whether the usage is shown with the message. -/
def showsUsage : Misuse → Bool
  | .unknownOption _ => true
  | .unexpectedArgument _ => true
  | _ => false

end Misuse

/-- How the program is used. -/
def usage : String :=
  "Usage: sheetopia [OPTIONS] [FILE]\n" ++
  "\n" ++
  "Arguments:\n" ++
  "  [FILE]                    Snapshot file to open (.json)\n" ++
  "\n" ++
  "Options:\n" ++
  "  -c, --command <FORMULA>   Evaluate a formula and print the result (leading '=' optional)\n" ++
  "  --at <CELL>               Cell the formula is evaluated at (default: A1)\n" ++
  "  --set <CELL>=<INPUT>      Set a cell (can be repeated)\n" ++
  "  --insert-row <N>          Insert a row before row N (can be repeated)\n" ++
  "  --delete-row <N>          Delete row N (can be repeated)\n" ++
  "  --insert-col <COL>        Insert a column before column COL (can be repeated)\n" ++
  "  --delete-col <COL>        Delete column COL (can be repeated)\n" ++
  "  -o, --output <FILE>       Write the sheet (.md exports markdown, anything else JSON)\n" ++
  "  --config <FILE>           Settings file (default: user config dir)\n" ++
  "  -h, --help                Print help\n"

/-! ## Values of options -/

/-- The position that a value names. -/
def readCell (text : String) : Except Misuse Position :=
  match Position.ofName? text with
  | some p => .ok p
  | none => .error (.invalidCell text)

/-- The index of the row with the number that a value gives, counted from one. -/
def readRow (text : String) : Except Misuse Nat :=
  match Numeric.readIndex? (Text.trim text.toList) with
  | some (index + 1) => .ok index
  | _ => .error (.invalidRow text)

/-- The index of the column with the letters that a value gives, in either case. -/
def readColumn (text : String) : Except Misuse Nat :=
  match Column.index? (Text.upperAscii (Text.trim text.toList)) with
  | some index => .ok index
  | none => .error (.invalidColumn text)

/-- The index on an axis that a value names. -/
def readIndex : Axis → String → Except Misuse Nat
  | .row => readRow
  | .column => readColumn

/-- The edit that a cell and an input with an equals sign between them ask for. -/
def readSet (text : String) : Except Misuse Edit :=
  match text.toList.dropWhile (· ≠ '=') with
  | [] => .error (.invalidSet text)
  | _ :: input => do
    let p ← readCell (String.ofList (text.toList.takeWhile (· ≠ '=')))
    return .set p (String.ofList input)

/-! ## Options -/

/-- The options that take a value. -/
inductive Flag where
  | command
  | anchor
  | set
  | insert (axis : Axis)
  | delete (axis : Axis)
  | output
  | settings
deriving DecidableEq, Repr

/-- The option with a name. -/
def Flag.named? : String → Option Flag
  | "-c" => some .command
  | "--command" => some .command
  | "--at" => some .anchor
  | "--set" => some .set
  | "--insert-row" => some (.insert .row)
  | "--delete-row" => some (.delete .row)
  | "--insert-col" => some (.insert .column)
  | "--delete-col" => some (.delete .column)
  | "-o" => some .output
  | "--output" => some .output
  | "--config" => some .settings
  | _ => none

/-- The options with an edit added at the end. -/
def Options.addEdit (o : Options) (e : Edit) : Options := { o with edits := o.edits ++ [e] }

/-- The options with one more option and its value. -/
def Options.add (o : Options) (flag : Flag) (value : String) : Except Misuse Options :=
  match flag with
  | .command => return { o with command := some value }
  | .anchor => return { o with anchor := some (← readCell value) }
  | .set => return o.addEdit (← readSet value)
  | .insert axis => return o.addEdit (.insert axis (← readIndex axis value))
  | .delete axis => return o.addEdit (.delete axis (← readIndex axis value))
  | .output => return { o with output := some value }
  | .settings => return { o with settings := some value }

/-- Whether an argument asks for help. -/
def isHelp (arg : String) : Bool := arg = "-h" || arg = "--help"

/-- Whether an argument looks like an option: it starts with a hyphen and is longer than that. -/
def looksLikeOption (arg : String) : Bool :=
  match arg.toList with
  | '-' :: _ :: _ => true
  | _ => false

/-- What further arguments add to options; `none` if one of them asks for help. -/
def Options.addArguments (o : Options) : List String → Except Misuse (Option Options)
  | [] => .ok (some o)
  | arg :: rest =>
    if isHelp arg then .ok none
    else
      match Flag.named? arg, rest with
      | some flag, value :: rest =>
        match o.add flag value with
        | .ok o => o.addArguments rest
        | .error e => .error e
      | some _, [] => .error (.missingValue arg)
      | none, rest =>
        if looksLikeOption arg then .error (.unknownOption arg)
        else if o.file.isSome then .error (.unexpectedArgument arg)
        else { o with file := some arg }.addArguments rest

/-- What the arguments ask for; `none` if they ask for help. -/
def Options.ofArguments (args : List String) : Except Misuse (Option Options) :=
  Options.addArguments {} args

end Spreadsheet.Command
