import Spreadsheet.Main
import Spreadsheet.Proofs.Formula.Grammar
import Spreadsheet.Proofs.Formula.Cursor
import Spreadsheet.Proofs.Formula.Reading
import Spreadsheet.Proofs.Formula.References
import Spreadsheet.Proofs.Formula.Totals
import Spreadsheet.Proofs.Formula.Chains
import Spreadsheet.Proofs.Formula.Inlining
import Spreadsheet.Proofs.Formula.Lexicon
import Spreadsheet.Proofs.Formula.Splitting
import Spreadsheet.Proofs.Formula.Spacing
import Spreadsheet.Proofs.Formula.Separation
import Spreadsheet.Proofs.Formula.Printing
import Spreadsheet.Proofs.Formula.Stages
import Spreadsheet.Proofs.Formula.Prefixes
import Spreadsheet.Proofs.Formula.SyntaxFaults
import Spreadsheet.Proofs.Formula.Machine
import Spreadsheet.Proofs.Formula.Registration
import Spreadsheet.Proofs.Formula.Wordings
import Spreadsheet.Proofs.Formula.Strictness
import Spreadsheet.Proofs.Formula.InOrder
import Spreadsheet.Proofs.Text.Characters
import Spreadsheet.Proofs.Text.Case
import Spreadsheet.Proofs.Formula.SideBySide
import Spreadsheet.Proofs.Address
import Spreadsheet.Proofs.Address.Language
import Spreadsheet.Proofs.Sheet.Changes
import Spreadsheet.Proofs.Sheet.Operations
import Spreadsheet.Proofs.Sheet.UpToDate
import Spreadsheet.Proofs.Sheet.LastEdits
import Spreadsheet.Proofs.Sheet.Order
import Spreadsheet.Proofs.Sheet.Reads
import Spreadsheet.Proofs.Sheet.QuotedInputs
import Spreadsheet.Proofs.Sheet.Cycles
import Spreadsheet.Proofs.Sheet.Resizing
import Spreadsheet.Proofs.Sheet.Spellings
import Spreadsheet.Proofs.Number.Plain
import Spreadsheet.Proofs.Number.Counts
import Spreadsheet.Proofs.Number.Rounding
import Spreadsheet.Proofs.Number.Bits
import Spreadsheet.Proofs.Number.Nearest
import Spreadsheet.Proofs.Number.ShortestDecimals
import Spreadsheet.Proofs.Sheet.Pasting
import Spreadsheet.Proofs.Script
import Spreadsheet.Proofs.Script.Composition
import Spreadsheet.Proofs.Sheet.Replay
import Spreadsheet.Proofs.Sheet.Addressing
import Spreadsheet.Proofs.Sheet.ShownAddresses
import Spreadsheet.Proofs.Sheet.FaultOrigins
import Spreadsheet.Proofs.Sheet.InPlace
import Spreadsheet.Proofs.Sheet.EditedCell
import Spreadsheet.Proofs.Sheet.Counting
import Spreadsheet.Proofs.Report.Csv
import Spreadsheet.Proofs.CommandLine.Running
import Spreadsheet.Proofs.Number.ReadingBack
import Spreadsheet.Proofs.Formula.ShownNumbers
import Spreadsheet.Proofs.Script.EditLines
import Spreadsheet.Proofs.Formula.OneLine
import Spreadsheet.Proofs.Report.Table
import Spreadsheet.Proofs.Sheet.OneLine
import Spreadsheet.Proofs.CommandLine.Tables
import Spreadsheet.Proofs.CommandLine.Inspection
