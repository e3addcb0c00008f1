import Spreadsheet.Report.Grid

/-!
# Comma-separated text

- `Csv.field`: a field, in quotes if it has a comma, a quote or the end of a line in it.
- `Csv.render`: records, each on a line of its own.
- `Sheet.csv`: a sheet as comma-separated text.
-/

namespace Spreadsheet

namespace Csv

/-- Must a field with this character be put in quotes? -/
def isSpecial (c : Char) : Bool := c = ',' || c = '"' || c = '\n' || c = '\r'

/-- A field. Inside quotes a quote is written twice. -/
def field (text : List Char) : List Char :=
  if text.any isSpecial then
    '"' :: text.flatMap (fun c => if c = '"' then ['"', '"'] else [c]) ++ ['"']
  else text

/-- A record: its fields with commas between them, and a line feed. -/
def record (fields : List (List Char)) : List Char :=
  (List.intercalate [','] (fields.map field)) ++ ['\n']

/-- Records, one after the other. -/
def render (records : List (List (List Char))) : List Char := records.flatMap record

end Csv

/-- What a sheet shows, as comma-separated text. -/
def Sheet.csv (s : Sheet) : String :=
  .ofList (Csv.render (s.shownRows.map fun row => row.map String.toList))

end Spreadsheet
