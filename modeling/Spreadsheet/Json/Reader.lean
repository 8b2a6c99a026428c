import Spreadsheet.Json.Token

/-!
# Reading JSON

A text is read token by token. The arrays and objects whose ends are still to come are kept on a
stack, so that values may nest as deep as the text is long.
-/

namespace Spreadsheet.Json

/-- An array or object whose end is still to come, its parts in reverse order. -/
inductive Frame where
  | array (items : List Json)
  | object (members : List (List Char × Json))
  /-- An object whose last key has no value yet. -/
  | member (members : List (List Char × Json)) (key : List Char)

/-- What comes next. -/
inductive Expected where
  | value
  /-- The first item of an array, or its end. -/
  | firstItem
  /-- The first key of an object, or its end. -/
  | firstKey
  | key
  | colon
  /-- A comma, or the end of the array or object. -/
  | next
  /-- Nothing more: the whole value has been read. -/
  | nothing (value : Json)

/-- How far a text has been read. -/
structure Progress where
  frames : List Frame
  expected : Expected

/-- Progress with a value put where one was expected. -/
def Progress.deliver (frames : List Frame) (value : Json) : Option Progress :=
  match frames with
  | [] => some ⟨[], .nothing value⟩
  | .array items :: rest => some ⟨.array (value :: items) :: rest, .next⟩
  | .member members key :: rest => some ⟨.object ((key, value) :: members) :: rest, .next⟩
  | .object _ :: _ => none

/-- Progress with the end of an array or object read. -/
def Progress.close (frames : List Frame) : Option Progress :=
  match frames with
  | .array items :: rest => deliver rest (.array items.reverse)
  | .object members :: rest => deliver rest (.object members.reverse)
  | _ => none

/-- Progress with a token read that starts a value. -/
def Progress.startValue (frames : List Frame) : Token → Option Progress
  | .null => deliver frames .null
  | .bool b => deliver frames (.bool b)
  | .number literal => deliver frames (.number literal)
  | .string raw => deliver frames (.string raw)
  | .openArray => some ⟨.array [] :: frames, .firstItem⟩
  | .openObject => some ⟨.object [] :: frames, .firstKey⟩
  | _ => none

/-- Progress with a key read. -/
def Progress.startMember (frames : List Frame) (key : List Char) : Option Progress :=
  match frames with
  | .object members :: rest => some ⟨.member members key :: rest, .colon⟩
  | _ => none

/-- Progress with a token read; `none` if it cannot stand there. -/
def Progress.step (p : Progress) (token : Token) : Option Progress :=
  match p.expected, token with
  | .value, token => startValue p.frames token
  | .firstItem, .closeArray => close p.frames
  | .firstItem, token => startValue p.frames token
  | .firstKey, .closeObject => close p.frames
  | .firstKey, .string key => startMember p.frames key
  | .key, .string key => startMember p.frames key
  | .colon, .colon => some { p with expected := .value }
  | .next, token =>
    match p.frames, token with
    | .array _ :: _, .comma => some { p with expected := .value }
    | .object _ :: _, .comma => some { p with expected := .key }
    | .array _ :: _, .closeArray => close p.frames
    | .object _ :: _, .closeObject => close p.frames
    | _, _ => none
  | _, _ => none

/-- The value that a list of tokens writes. -/
def ofTokens? (tokens : List Token) : Option Json :=
  match tokens.foldlM Progress.step ⟨[], .value⟩ with
  | some ⟨_, .nothing value⟩ => some value
  | _ => none

/-- The value that a text writes. -/
def parse? (text : String) : Option Json := (tokens? text.toList).bind ofTokens?

end Spreadsheet.Json
