import Spreadsheet.CommandLine.Options
import Spreadsheet.Formula.Evaluation
import Spreadsheet.Text.Blank

/-!
# Commands

- `Command`: what can be asked on the command line.
- `Command.read?`: the command that the arguments ask for; nothing if they ask for none.
- `readCount?`, `readLimit?`, `Format.ofName?`, `readAssignment?`: the values of options.
-/

namespace Spreadsheet

namespace CommandLine

/-- How a sheet is written. -/
inductive Format where
  | table
  | csv
  | json
deriving DecidableEq, Repr

/-- The format with a name. -/
def Format.ofName? (name : String) : Option Format :=
  if name = "table" then some .table
  else if name = "csv" then some .csv
  else if name = "json" then some .json
  else none

/-- What can be asked on the command line. -/
inductive Command where
  /-- The tokens of a formula. -/
  | tokens (formula : String) (json : Bool)
  /-- The tree of a formula, and perhaps its references. -/
  | ast (formula : String) (json references : Bool)
  /-- What a cell with the input shows on a sheet with the given cells. -/
  | eval (input : String) (cells : List (String × String)) (limit : Nat)
  /-- The sheet that a script makes. -/
  | run (script : String) (rows cols : Nat) (recalculates : Bool) (limit : Nat)
      (format : Format)
deriving DecidableEq, Repr

/-! ## Values of options -/

/-- A number of rows or columns, with an optional sign and up to `most`. Only
zero may be negative. -/
def readCount? (most : Nat) (value : String) : Option Nat :=
  match value.toList with
  | '+' :: digits => (Numeral.natural? digits).filter (· ≤ most)
  | '-' :: digits => (Numeral.natural? digits).filter (· = 0)
  | digits => (Numeral.natural? digits).filter (· ≤ most)

/-- A number of references, with an optional plus sign. -/
def readLimit? (value : String) : Option Nat :=
  match value.toList with
  | '+' :: digits => (Numeral.natural? digits).filter (· < UInt64.size)
  | digits => (Numeral.natural? digits).filter (· < UInt64.size)

/-- An address and the input for it, with `=` between them. -/
def readAssignment? (value : String) : Option (String × String) :=
  match value.toList.dropWhile (· != '=') with
  | [] => none
  | _ :: input =>
    some (Text.trimmed (.ofList (value.toList.takeWhile (· != '='))), .ofList input)

/-! ## Commands -/

namespace Command

/-- An option without a value. -/
def flag (long : String) (short : Option Char) : OptionRule := ⟨long, short, false, false⟩

/-- An option with one value. -/
def setting (long : String) (short : Option Char) : OptionRule := ⟨long, short, true, false⟩

/-- The options of `tokens`. -/
def tokensRules : List OptionRule := [flag "json" none]

/-- The options of `ast`. -/
def astRules : List OptionRule := [flag "json" none, flag "references" (some 'r')]

/-- The options of `eval`. -/
def evalRules : List OptionRule := [⟨"set", none, true, true⟩, setting "max-depth" none]

/-- The options of `run`. -/
def runRules : List OptionRule :=
  [setting "rows" none, setting "cols" none, flag "recalculate" (some 'r'),
    setting "max-depth" none, setting "format" (some 'f')]

/-- The command `tokens`. -/
def readTokens? (arguments : List String) : Option Command := do
  let args ← Arguments.read? tokensRules arguments
  return .tokens (← args.operand?) (args.has "json")

/-- The command `ast`. -/
def readAst? (arguments : List String) : Option Command := do
  let args ← Arguments.read? astRules arguments
  return .ast (← args.operand?) (args.has "json") (args.has "references")

/-- The command `eval`. -/
def readEval? (arguments : List String) : Option Command := do
  let args ← Arguments.read? evalRules arguments
  let cells ← (args.values "set").mapM readAssignment?
  let limit ← args.value? "max-depth" readLimit? Formula.usualLimit
  return .eval (← args.operand?) cells limit

/-- The command `run`. A script without a name cannot be read. -/
def readRun? (arguments : List String) : Option Command := do
  let args ← Arguments.read? runRules arguments
  let script ← args.operand?
  if script.isEmpty then none
  let rows ← args.value? "rows" (readCount? 4294967295) 100
  let cols ← args.value? "cols" (readCount? 65535) 26
  let limit ← args.value? "max-depth" readLimit? Formula.usualLimit
  let format ← args.value? "format" Format.ofName? .table
  return .run script rows cols (args.has "recalculate") limit format

/-- The command that the arguments ask for, if they ask for one. Help and the version are no
commands. What a command does is stated for the command itself and does not depend on how its
arguments were written. -/
def read? : List String → Option Command
  | "tokens" :: arguments => readTokens? arguments
  | "ast" :: arguments => readAst? arguments
  | "eval" :: arguments => readEval? arguments
  | "run" :: arguments => readRun? arguments
  | _ => none

end Command

end CommandLine

end Spreadsheet
