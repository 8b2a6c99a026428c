import Spreadsheet.Document.Basic
import Spreadsheet.History
import Spreadsheet.Numeric.Numeral
import Spreadsheet.Text.HexTable
import Spreadsheet.Text.Split

/-!
# Settings

Settings say how large a new sheet is and how many edits can be undone. They are read from TOML: a
line for each setting, `key = number`, with comments and blank lines anywhere. Each key may be given
once, and no other keys are known.
-/

namespace Spreadsheet

/-- How large a new sheet is, and how many edits can be undone. -/
structure Settings where
  rows : Nat := Document.usualRows
  cols : Nat := Document.usualCols
  undoLimit : Nat := History.usualLimit
deriving DecidableEq, Repr

namespace Settings

/-- Why settings cannot be read. -/
inductive Error where
  /-- The text is not TOML with numbers for known keys. -/
  | malformed
  | tooSmall
deriving DecidableEq, Repr

/-- The text of an error. What is wrong with malformed text is not explained. -/
def Error.message : Error → String
  | .malformed => "Config error: not a settings file"
  | .tooSmall => "Invalid config: config rows and cols must be at least 1"

/-- The sheet that settings ask for. -/
def newDocument (s : Settings) : Document := .empty s.rows s.cols

/-- The size in bytes beyond which a settings file is not read. -/
def maxFileSize : Nat := 1048576

/-! ## Numbers -/

/-- The greatest number that can be written, one below the power 63 of two. -/
def maxNumber : Nat := 9223372036854775807

/-- The value of digits in a base, single low lines between them allowed. -/
def digits? (base : Nat) (cs : List Char) : Option Nat := do
  let groups := Text.split '_' cs
  if groups.any List.isEmpty then none
  let digits ← groups.flatten.mapM Text.hexDigit?
  if digits.all (· < base) then return digits.foldl (fun n d => base * n + d) 0 else none

/-- The value of decimal digits, which start with a zero only if it is all there is. -/
def decimal? (cs : List Char) : Option Nat :=
  match cs with
  | '0' :: _ :: _ => none
  | _ => digits? 10 cs

/-- The number that a text writes: decimal with an optional sign, or in base 16, 8 or 2. Numbers
below zero and beyond `maxNumber` do not count. -/
def number? (cs : List Char) : Option Nat :=
  Option.filter (· ≤ maxNumber) <|
    match cs with
    | '0' :: 'x' :: rest => digits? 16 rest
    | '0' :: 'o' :: rest => digits? 8 rest
    | '0' :: 'b' :: rest => digits? 2 rest
    | '+' :: rest => decimal? rest
    | '-' :: rest => (decimal? rest).filter (· = 0)
    | _ => decimal? cs

/-! ## Keys -/

/-- What can be set. -/
inductive Key where
  | rows
  | cols
  | undoLimit
deriving DecidableEq, Repr

/-- The key with a name. -/
def Key.named? (name : List Char) : Option Key :=
  match String.ofList name with
  | "rows" => some .rows
  | "cols" => some .cols
  | "undo_limit" => some .undoLimit
  | _ => none

/-- The character with the code that digits write in base sixteen. -/
def escapedCode? (digits : List Char) : Option Char := do
  let digits ← digits.mapM Text.hexDigit?
  let code := digits.foldl (fun n d => 16 * n + d) 0
  if code.isValidChar then return Char.ofNat code else none

/-- What stands between double quotes, its escapes resolved, and what follows the closing quote. -/
def scanQuoted? : List Char → Option (List Char × List Char)
  | '"' :: rest => some ([], rest)
  | '\\' :: 'u' :: a :: b :: c :: d :: rest => do
    let char ← escapedCode? [a, b, c, d]
    let (name, rest) ← scanQuoted? rest
    return (char :: name, rest)
  | '\\' :: 'U' :: a :: b :: c :: d :: e :: f :: g :: h :: rest => do
    let char ← escapedCode? [a, b, c, d, e, f, g, h]
    let (name, rest) ← scanQuoted? rest
    return (char :: name, rest)
  | c :: rest => do
    if c = '\\' then none
    let (name, rest) ← scanQuoted? rest
    return (c :: name, rest)
  | [] => none

/-- Whether a character can stand in a key without quotes. -/
def isKeyChar (c : Char) : Bool := c.isAlphanum || c = '_' || c = '-'

/-- The name at the start of a line, with or without quotes, and what follows it. -/
def scanName? : List Char → Option (List Char × List Char)
  | '"' :: rest => scanQuoted? rest
  | '\'' :: rest =>
    match rest.dropWhile (· ≠ '\'') with
    | _ :: after => some (rest.takeWhile (· ≠ '\''), after)
    | [] => none
  | cs => some (cs.takeWhile isKeyChar, cs.dropWhile isKeyChar)

/-! ## Lines -/

/-- Whether a character is a blank inside a line. -/
def isSpace (c : Char) : Bool := c = ' ' || c = '\t'

/-- Whether a character can stand in a comment. -/
def isCommentChar (c : Char) : Bool := c = '\t' || (c.toNat ≥ 0x20 && c.toNat ≠ 0x7F)

/-- Whether a text is blank or a comment. -/
def isRemark (cs : List Char) : Bool :=
  match cs.dropWhile isSpace with
  | [] => true
  | '#' :: comment => comment.all isCommentChar
  | _ => false

/-- The setting on a line that is not blank and no comment. -/
def setting? (line : List Char) : Option (Key × Nat) := do
  let (name, rest) ← scanName? (line.dropWhile isSpace)
  let key ← Key.named? name
  match rest.dropWhile isSpace with
  | '=' :: rest =>
    let rest := rest.dropWhile isSpace
    let n ← number? (rest.takeWhile fun c => !isSpace c && c ≠ '#')
    if isRemark (rest.dropWhile fun c => !isSpace c && c ≠ '#') then return (key, n) else none
  | _ => none

/-- The setting on a line, if there is one. -/
def readLine? (line : List Char) : Option (Option (Key × Nat)) :=
  if isRemark line then some none else (setting? line).map some

/-- The lines of a text, each but the last without a carriage return at its end. -/
def lines (cs : List Char) : List (List Char) :=
  let pieces := Text.split '\n' cs
  pieces.dropLast.map (fun line => if line.getLast? = some '\r' then line.dropLast else line)
    ++ pieces.getLast?.toList

/-- The value of the only setting for a key, the usual one if there is none, and no answer if there
are several. -/
def only? (settings : List (Key × Nat)) (key : Key) (usual : Nat) : Option Nat :=
  match settings.filter (·.1 = key) with
  | [] => some usual
  | [(_, n)] => some n
  | _ => none

/-- The settings that a text holds. A byte order mark at its start is skipped. -/
def parse? (text : String) : Option Settings := do
  let cs := match text.toList with
    | '\ufeff' :: rest => rest
    | cs => cs
  let settings := (← (lines cs).mapM readLine?).filterMap id
  return {
    rows := ← only? settings .rows Document.usualRows
    cols := ← only? settings .cols Document.usualCols
    undoLimit := ← only? settings .undoLimit History.usualLimit }

/-- Reads settings. -/
def read (text : String) : Except Error Settings :=
  match parse? text with
  | none => .error .malformed
  | some s => if s.rows = 0 ∨ s.cols = 0 then .error .tooSmall else .ok s

end Settings

end Spreadsheet
