import Spreadsheet.Command.Files

/-!
# Folders as values

A `Folder` holds files and folders by their paths, seen from a working folder. Paths are followed
part by part; what lies above the working folder, or at the root of the system, counts as empty.
-/

namespace Spreadsheet.Command

/-- The parts of the way from the working folder to a file or folder. -/
abbrev Way := List String

/-- Files with their texts, and folders. -/
structure Folder where
  files : List (Way × String) := []
  folders : List Way := []
deriving Repr

namespace Folder

/-- What a path leads to. -/
inductive Target where
  | file (way : Way) (text : String)
  | folder (way : Way)
  /-- Nothing yet, but a file could be made there. -/
  | vacant (way : Way)

/-- The way one folder up. -/
def up (way : Way) : Way :=
  if way = ["/"] then way
  else if way.all (· = "..") then way ++ [".."]
  else way.dropLast

/-- Whether there is a folder: a known one, the root, the working folder, or one above it. -/
def isFolder (f : Folder) (way : Way) : Bool :=
  way = ["/"] || way.all (· = "..") || f.folders.contains way

/-- Follows the parts of a path from a folder. -/
def follow (f : Folder) (way : Way) : List String → Except FileError Target
  | [] => .ok (.folder way)
  | part :: rest =>
    if part = "" ∨ part = "." then f.follow way rest
    else if part = ".." then f.follow (up way) rest
    else
      let next := way ++ [part]
      if f.isFolder next then f.follow next rest
      else
        match f.files.lookup next, rest with
        | some text, [] => .ok (.file next text)
        | some _, _ => .error .notFolder
        | none, [] => .ok (.vacant next)
        | none, _ => .error .missing

/-- What a path leads to. -/
def find (f : Folder) (path : String) : Except FileError Target :=
  if path = "" then .error .missing
  else
    match pathParts path with
    | "" :: rest => f.follow ["/"] rest
    | parts => f.follow [] parts

/-- The text of a file. -/
def read (f : Folder) (path : String) : Except FileError String :=
  match f.find path with
  | .ok (.file _ text) => .ok text
  | .ok (.folder _) => .error .isFolder
  | .ok (.vacant _) => .error .missing
  | .error e => .error e

/-- Whether a path leads to a file. -/
def isFile (f : Folder) (path : String) : Bool := (f.read path).isOk

/-- The length of what a path leads to, in bytes; a folder counts as empty. -/
def size (f : Folder) (path : String) : Except FileError Nat :=
  match f.find path with
  | .ok (.file _ text) => .ok text.utf8ByteSize
  | .ok (.folder _) => .ok 0
  | .ok (.vacant _) => .error .missing
  | .error e => .error e

/-- The path without slashes at its end, unless it has nothing else. -/
def withoutEndSlashes (path : String) : String :=
  match path.toList.reverse.dropWhile (· = '/') with
  | [] => path
  | parts => String.ofList parts.reverse

/-- The way to the file that a path leads to for writing. A slash at the end asks for a folder. -/
def wayToWrite (f : Folder) (path : String) : Except FileError Way :=
  match f.find (withoutEndSlashes path) with
  | .error e => .error e
  | .ok (.folder _) => .error .isFolder
  | .ok (.file way _) => if withoutEndSlashes path = path then .ok way else .error .isFolder
  | .ok (.vacant way) => if withoutEndSlashes path = path then .ok way else .error .isFolder

/-- The folder with a text in a file. -/
def write (f : Folder) (path text : String) : Except FileError Folder :=
  (f.wayToWrite path).map fun way =>
    { f with files := (way, text) :: f.files.filter (·.1 ≠ way) }

/-- Access to the files of a folder that is a state. -/
def access : Access (StateM Folder) where
  isFile path := return (← get).isFile path
  size path := return (← get).size path
  read path := return (← get).read path
  write path text := do
    match (← get).write path text with
    | .ok f => set f; return .ok ()
    | .error e => return .error e

end Folder

end Spreadsheet.Command
