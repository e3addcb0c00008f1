import Spreadsheet.Sheet.Editing

/-!
# Scripts

A script is a list of edits, one a line: an address, blank characters, and the input. An address
alone clears its cell. Empty lines and lines that start with `#` say nothing.

- `Edit`, `Edit.parseLine`: an edit and the line that it is read from.
- `lines`: a text as lines, which end with a line feed or with a carriage return
  and a line feed.
- `Script.parse`: all edits of a script, or the first line that is none.
- `Script.apply`: makes the edits on a sheet, one after the other, until one is refused.
-/

namespace Spreadsheet

/-- An edit of one cell. -/
structure Edit where
  /-- The number of the line, counted from 1. -/
  line : Nat
  address : Address
  input : String
deriving DecidableEq, Repr

namespace Script

/-- Why a script cannot be carried out. -/
inductive Error where
  /-- A line that does not start with an address. -/
  | malformed (line : Nat) (error : Address.Error)
  /-- An edit that the sheet refuses. -/
  | refused (line : Nat) (error : Sheet.Error)
deriving DecidableEq, Repr

namespace Error

/-- The number of the line at fault. -/
def line : Error → Nat
  | malformed line _ => line
  | refused line _ => line

/-- The wording of a script error. -/
def message : Error → String
  | malformed line error => s!"Malformed edit at line {line}: {error.message}"
  | refused line error => s!"Cannot apply edit at line {line}: {error.message}"

end Error

end Script

namespace Edit

/-- Is the character a carriage return or a line feed? -/
def isLineEnd (c : Char) : Bool := c = '\r' || c = '\n'

/-- The line without carriage returns and line feeds at its end and blank
characters in front. -/
def contentOf (line : List Char) : List Char :=
  Text.trimStart (line.reverse.dropWhile isLineEnd).reverse

/-- Reads one line, which has the given number. Empty lines and comments say nothing. -/
def parseLine (number : Nat) (line : String) : Except Script.Error (Option Edit) :=
  match contentOf line.toList with
  | [] => .ok none
  | '#' :: _ => .ok none
  | content =>
    let word := content.takeWhile fun c => !Text.isBlank c
    let input := Text.trimStart (content.dropWhile fun c => !Text.isBlank c)
    match Address.parse (.ofList word) with
    | .ok address => .ok (some ⟨number, address, .ofList input⟩)
    | .error error => .error (.malformed number error)

end Edit

namespace Script

/-- A line without the carriage return at its end, if there is one. -/
def dropReturn (line : List Char) : List Char :=
  match line.reverse with
  | '\r' :: rest => rest.reverse
  | _ => line

/-- The lines of a text. Nothing after the last line feed is no line. -/
def linesFrom (line : List Char) : List Char → List (List Char)
  | [] => if line.isEmpty then [] else [line.reverse]
  | '\n' :: rest => dropReturn line.reverse :: linesFrom [] rest
  | c :: rest => linesFrom (c :: line) rest

/-- The lines of a text, each without the line feed, or carriage return and line
feed, at its end. -/
def lines (text : String) : List String := (linesFrom [] text.toList).map .ofList

/-- Reads lines, the first of which has the given number. -/
def parseLines : Nat → List String → Except Error (List Edit)
  | _, [] => .ok []
  | number, line :: rest => do
    let edit ← Edit.parseLine number line
    let edits ← parseLines (number + 1) rest
    return edit.toList ++ edits

/-- The edits of a script. -/
def parse (script : String) : Except Error (List Edit) := parseLines 1 (lines script)

/-- Makes edits one after the other. The sheet that results comes with what the edited cells
showed right after their edits, or with the first edit that was refused. -/
def apply (s : Sheet) (mode : Sheet.EditMode) :
    List Edit → Sheet × Except Error (List String)
  | [] => (s, .ok [])
  | e :: rest =>
    match s.edit mode e.address.position e.input with
    | .error error => (s, .error (.refused e.line error))
    | .ok (t, shown) =>
      let (final, result) := apply t mode rest
      (final, result.map (shown :: ·))

end Script

end Spreadsheet
