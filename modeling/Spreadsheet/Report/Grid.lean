import Spreadsheet.Sheet.Basic

/-!
# The grid that is shown

Tables and comma-separated text show the part of a sheet that is in use: all rows and columns
from the first to the last that hold something.

- `Sheet.extent?`: the last row and the last column in use.
- `Sheet.shownRows`: what the cells of that part show, row by row.
-/

namespace Spreadsheet

namespace Sheet

/-- The last row and the last column that hold something, if any do. -/
def extent? (s : Sheet) : Option Position :=
  match s.entries with
  | [] => none
  | (p, _) :: rest =>
    some (rest.foldl (fun q e => ⟨max q.row e.1.row, max q.col e.1.col⟩) p)

/-- What the cells up to the last row and column in use show, row by row. -/
def shownRows (s : Sheet) : List (List String) :=
  match s.extent? with
  | none => []
  | some last =>
    (List.range (last.row + 1)).map fun row =>
      (List.range (last.col + 1)).map fun col => s.displayAt ⟨row, col⟩

end Sheet

end Spreadsheet
