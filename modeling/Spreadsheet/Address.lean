import Spreadsheet.Column
import Spreadsheet.Number.Numeral
import Spreadsheet.Text.Blank

/-!
# Cell addresses

An address is column letters and a row number, each with an optional `$` in front. The marks are
part of how the address was written and nothing more: `B2`, `$B2` and `$B$2` name one cell.

- `Position`: a row and a column, counted from 0; positions are ordered row by row.
- `Address`: a position and how it was marked; `Address.text` writes it.
- `Address.parse`: reads an address, blank ends ignored.
- `Address.Error`, `Address.Error.message`: why a text is no address.
- `Address.takeMark_append`: a mark and the rest are the text.
-/

namespace Spreadsheet

/-- A row and a column, counted from 0. -/
structure Position where
  row : Nat
  col : Nat
deriving DecidableEq, Repr

namespace Position

/-- Row by row, and by column within a row. -/
def before (p q : Position) : Bool := p.row < q.row || (p.row == q.row && p.col < q.col)

end Position

/-- A position as it was written. -/
structure Address where
  position : Position
  /-- Is there a `$` before the column letters? -/
  colMarked : Bool
  /-- Is there a `$` before the row number? -/
  rowMarked : Bool
deriving DecidableEq, Repr

namespace Address

/-- The number of rows that an address can name. -/
def rowCount : Nat := 1048576

/-- Rows past the last one are reported up to this index and no further. -/
def reportedRowLimit : Nat := 4294967295

/-- Why a text is no address. -/
inductive Error where
  /-- No letters where the column should be. -/
  | noColumn (text : String)
  /-- No letters in a column label. -/
  | emptyLabel
  /-- A character in a column label that is no letter. -/
  | badLetter (c : Char)
  /-- A column past the last one. -/
  | columnTooLarge
  /-- Nothing where the row number should be. -/
  | noRow (text : String)
  /-- A row number with other characters than digits. -/
  | badRow (text : String)
  /-- The row number zero. -/
  | rowZero (text : String)
  /-- A row past the last one, by its index. -/
  | rowTooLarge (row : Nat)
deriving DecidableEq, Repr

/-- The wording of an address error. -/
def Error.message : Error → String
  | noColumn text => s!"Invalid cell address: no column letters in '{text}'"
  | emptyLabel => "Invalid cell address: empty column letters"
  | badLetter c => s!"Invalid cell address: invalid column letter '{c}'"
  | columnTooLarge =>
    s!"Column index {reportedRowLimit} out of bounds (max: {Column.count - 1})"
  | noRow text => s!"Invalid cell address: no row number in '{text}'"
  | badRow text => s!"Invalid cell address: invalid row number in '{text}'"
  | rowZero text => s!"Invalid cell address: row number must be >= 1 in '{text}'"
  | rowTooLarge row => s!"Row index {row} out of bounds (max: {rowCount - 1})"

/-! ## Reading -/

/-- Reads one more letter of a column label whose letters so far have the value `n`. -/
def addLetter (n : Nat) (c : Char) : Except Error Nat :=
  if !c.isAlpha then .error (.badLetter c)
  else if Column.count < 26 * n + Column.digit c then .error .columnTooLarge
  else .ok (26 * n + Column.digit c)

/-- Reads a column label as a column, counted from 0. -/
def parseColumn (letters : List Char) : Except Error Nat :=
  match letters with
  | [] => .error .emptyLabel
  | _ => (letters.foldlM addLetter 0).map (· - 1)

/-- Splits off a `$` in front. -/
def takeMark : List Char → Bool × List Char
  | '$' :: rest => (true, rest)
  | cs => (false, cs)

/-- Reads a row number as a row, counted from 0. The address is `text`. -/
def parseRow (digits : List Char) (text : String) : Except Error Nat :=
  if digits.isEmpty then .error (.noRow text)
  else if !digits.all Char.isDigit then .error (.badRow text)
  else
    let number := Numeral.digitsValue digits
    if number = 0 then .error (.rowZero text)
    else if rowCount < number then .error (.rowTooLarge (min (number - 1) reportedRowLimit))
    else .ok (number - 1)

/-- Reads an address without blank ends. -/
def parseTrimmed (cs : List Char) : Except Error Address := do
  let (colMarked, rest) := takeMark cs
  let letters := rest.takeWhile Char.isAlpha
  if letters.isEmpty then throw (.noColumn (.ofList cs))
  let col ← parseColumn letters
  let (rowMarked, digits) := takeMark (rest.dropWhile Char.isAlpha)
  let row ← parseRow digits (.ofList cs)
  return { position := ⟨row, col⟩, colMarked, rowMarked }

/-- Reads an address. Blank characters at its ends are ignored, letters count in either case,
and a row number may have zeros in front. -/
def parse (text : String) : Except Error Address := parseTrimmed (Text.trim text.toList)

/-! ## Writing -/

/-- The mark, if there is one. -/
def markText (marked : Bool) : List Char := if marked then ['$'] else []

/-- A mark that is split off is written again. -/
theorem takeMark_append (cs : List Char) :
    markText (takeMark cs).1 ++ (takeMark cs).2 = cs := by
  unfold takeMark
  split <;> simp [markText]

/-- The address as characters. -/
def chars (a : Address) : List Char :=
  markText a.colMarked ++ Column.label a.position.col ++ markText a.rowMarked ++
    Nat.toDigits 10 (a.position.row + 1)

/-- The address as it is shown: capital letters and no zeros in front. It is meant for rows
below 4294967295, the last number that a row can have: the number of that row, counted from 1,
is out of the range of rows. -/
def text (a : Address) : String := .ofList a.chars

/-- The address of a position without marks. -/
def ofPosition (p : Position) : Address := ⟨p, false, false⟩

/-- By position, then unmarked rows before marked ones, then unmarked columns
before marked ones. -/
def le (a b : Address) : Bool :=
  a.position.before b.position ||
    (a.position == b.position &&
      (!a.rowMarked && b.rowMarked ||
        (a.rowMarked == b.rowMarked && (!a.colMarked || b.colMarked))))

@[simp] theorem ofPosition_position (p : Position) : (ofPosition p).position = p := rfl

end Address

end Spreadsheet
