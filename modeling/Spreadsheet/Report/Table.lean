import Spreadsheet.Report.Grid

/-!
# Tables

A table has a line of column labels and a line for each row, which starts with the number of the
row. All lines are equally long, and the columns stand below each other.

- `Table.padRight`, `Table.padLeft`: a text with spaces at one end.
- `Table.widths`: the widths of the columns.
- `Table.render`: the lines of a table.
- `Sheet.table`: a sheet as a table.
-/

namespace Spreadsheet

namespace Table

/-- A text with spaces after it. The width is any machine word: columns may be as wide as the
widest text that a cell can show. A formatter whose widths have 16 bits, and which stops at a
cell that shows more than 65535 characters, is not the one meant here. -/
def padRight (width : Nat) (text : List Char) : List Char :=
  text ++ List.replicate (width - text.length) ' '

/-- A text with spaces before it. -/
def padLeft (width : Nat) (text : List Char) : List Char :=
  List.replicate (width - text.length) ' ' ++ text

/-- A line: the label of the row and then the cells, as wide as their columns. -/
def line (label : List Char) (widths : List Nat) (cells : List (List Char)) : List Char :=
  label ++ (widths.zip cells).flatMap
    (fun (width, cell) => [' ', '|', ' '] ++ padRight width cell)
    ++ ['\n']

/-- The labels of the first `count` columns. -/
def columnLabels (count : Nat) : List (List Char) := (List.range count).map Column.label

/-- The widths of the columns: each is as wide as its label and its widest cell. -/
def widths (rows : List (List (List Char))) (labels : List (List Char)) : List Nat :=
  rows.foldl (fun widths row =>
    List.zipWith (fun w (cell : List Char) => max w cell.length) widths row)
    (labels.map List.length)

/-- The lines of a table of rows that all have `count` cells. -/
def render (count : Nat) (rows : List (List (List Char))) : List Char :=
  let labels := columnLabels count
  let widths := widths rows labels
  let labelWidth := (Nat.toDigits 10 rows.length).length
  line (List.replicate labelWidth ' ') widths labels ++
    rows.zipIdx.flatMap fun (row, i) =>
      line (padLeft labelWidth (Nat.toDigits 10 (i + 1))) widths row

end Table

/-- What a sheet shows, as a table; nothing if no cell holds anything. -/
def Sheet.table (s : Sheet) : String :=
  match s.extent? with
  | none => ""
  | some last =>
    .ofList (Table.render (last.col + 1) (s.shownRows.map fun row => row.map String.toList))

end Spreadsheet
