import Spreadsheet.CommandLine.Command
import Spreadsheet.Report.Csv
import Spreadsheet.Report.Document
import Spreadsheet.Report.Outline
import Spreadsheet.Report.Table
import Spreadsheet.Script

/-!
# Outcomes of commands

- `Failure`, `Failure.report`: why a command was not carried out, with its
  causes, outermost first.
- `Outcome`: what a command writes and how it ends.
- `Surroundings`: the texts that a command can read.
- `Command.execute`: carries out a command.
- `outcome`: what the program does when it is given arguments.
-/

namespace Spreadsheet

namespace CommandLine

open Formula

/-- Why a command was not carried out. -/
structure Failure where
  /-- What was tried. -/
  attempt : String
  /-- What went wrong, outermost cause first. -/
  causes : List String
deriving DecidableEq, Repr

namespace Failure

/-- A text whose first line starts with `first` and whose other lines start with `more`. -/
def indent (first more : List Char) (text : String) : List Char :=
  first ++ text.toList.flatMap fun c => if c = '\n' then '\n' :: more else [c]

/-- The causes, each on lines of its own. Several causes are numbered. -/
def renderCauses (causes : List String) : List (List Char) :=
  match causes with
  | [cause] => [indent (List.replicate 4 ' ') (List.replicate 4 ' ') cause]
  | causes =>
    causes.zipIdx.map fun (cause, i) =>
      indent ((Nat.toDigits 10 i).leftpad 5 ' ' ++ [':', ' ']) (List.replicate 7 ' ') cause

/-- What is written about a failure. -/
def report (f : Failure) : String :=
  let causes :=
    if f.causes.isEmpty then ""
    else "\n\nCaused by:\n" ++ .ofList (List.intercalate ['\n'] (renderCauses f.causes))
  "Error: " ++ f.attempt ++ causes ++ "\n"

end Failure

/-- How the program ends. -/
inductive Outcome where
  /-- The arguments ask for no command. A request for help or for the version is not
  told apart from this. -/
  | misused
  /-- The command was not carried out. -/
  | failed (failure : Failure)
  /-- The command was carried out, and wrote these texts. -/
  | done (stdout stderr : String)
deriving DecidableEq, Repr

namespace Outcome

/-- The number with which the program ends. -/
def code : Outcome → Nat
  | misused => 2
  | failed _ => 1
  | done .. => 0

/-- What is written as output. -/
def stdout : Outcome → String
  | done stdout _ => stdout
  | _ => ""

/-- What is written about the course of the program. The wording of the hint about arguments is
not fixed: only the number with which the program then ends is. -/
def stderr : Outcome → String
  | misused => "Usage: tokens FORMULA | ast FORMULA | eval INPUT | run SCRIPT\n"
  | failed failure => failure.report
  | done _ stderr => stderr

end Outcome

/-- The texts that a command can read: the input of the program, and files by their names. What
stands in place of a file that cannot be read is the reason. -/
structure Surroundings where
  stdin : String
  file : String → Except String String

/-- The reason why a file that does not exist cannot be read. -/
def noSuchFile : String := "No such file or directory (os error 2)"

namespace Command

/-- The error of one step as the only cause of a failure. -/
def attempting {ε α : Type} (attempt : String) (message : ε → String) (step : Except ε α) :
    Except Failure α :=
  step.mapError fun error => ⟨attempt, [message error]⟩

/-- A formula without blank ends and without an `=` in front. -/
def stripFormula (formula : String) : String :=
  match Text.trim formula.toList with
  | '=' :: body => .ofList (Text.trim body)
  | body => .ofList body

/-- The tokens of a formula, one a line. -/
def tokenLines (tokens : List Token) : String :=
  String.join (tokens.map fun t => t.shown ++ "\n")

/-- The references in a formula, on one line. -/
def referenceLine (t : Tree) : String :=
  "References: " ++
    (if t.references.isEmpty then "(none)" else String.intercalate ", " t.references) ++ "\n"

/-- A tree together with its references, as a document. -/
def treeReport (t : Tree) : Document :=
  .object [("ast", t.document), ("references", .array (t.references.map .string))]

/-- Reads the tokens of a formula. -/
def tokensOf (formula : String) : Except Failure (List Token) :=
  attempting "Failed to tokenize formula" Fault.message (tokenize (stripFormula formula))

/-- Reads the tree of a formula. -/
def treeOf (formula : String) : Except Failure Tree := do
  attempting "Failed to parse formula" Fault.message (parse (← tokensOf formula))

/-- What `tokens` writes. -/
def showTokens (formula : String) (json : Bool) : Except Failure String := do
  let tokens ← tokensOf formula
  if json then return (Document.array (tokens.map Token.document)).render ++ "\n"
  else return tokenLines tokens

/-- What `ast` writes. -/
def showTree (formula : String) (json references : Bool) : Except Failure String := do
  let t ← treeOf formula
  if json then
    return (if references then treeReport t else t.document).render ++ "\n"
  else
    return t.outline.render ++ "\n" ++ if references then referenceLine t else ""

/-- The usual sheet with inputs typed into some cells. -/
def prepare (s : Sheet) : List (String × String) → Except Failure Sheet
  | [] => .ok s
  | (address, input) :: rest => do
    let (t, _) ← attempting s!"Failed to set cell '{address}'" Sheet.Error.message
      (s.editAt address input)
    prepare t rest

/-- What `eval` writes. -/
def showValue (input : String) (cells : List (String × String)) (limit : Nat) :
    Except Failure String := do
  let s ← prepare .standard cells
  return s.displayOf limit input ++ "\n"

/-- The text of a script. A dash stands for the input of the program. -/
def scriptText (surroundings : Surroundings) (script : String) : Except Failure String :=
  if script = "-" then .ok surroundings.stdin
  else attempting s!"Failed to open '{script}'" id (surroundings.file script)

/-- The causes of an error in a script, outermost first. -/
def scriptCauses : Script.Error → List String
  | .malformed line error => [(Script.Error.malformed line error).message]
  | .refused line error => [(Script.Error.refused line error).message, error.message]

/-- The sheet that a script makes. -/
def sheetOf (surroundings : Surroundings) (script : String) (rows cols limit : Nat) :
    Except Failure Sheet := do
  if rows = 0 ∨ cols = 0 then
    throw ⟨"Sheet must have at least one row and one column", []⟩
  let text ← scriptText surroundings script
  let edits ← (Script.parse text).mapError fun error =>
    ⟨s!"Failed to read '{script}'", scriptCauses error⟩
  match Script.apply (Sheet.new rows cols) ⟨limit, false⟩ edits with
  | (s, .ok _) => return s
  | (_, .error error) => throw ⟨"Failed to apply edits", scriptCauses error⟩

/-- A sheet in a format. -/
def showSheet (s : Sheet) : Format → String
  | .table => s.table
  | .csv => s.csv
  | .json => s.document.render ++ "\n"

/-- What is said about a recalculation. -/
def tallyLine (t : Sheet.Tally) : String :=
  s!"Calculated {t.calculated} formulas ({t.faults} errors)\n"

/-- Carries out a command: what it writes as output, and what it says about its course.

The recalculation in `run` goes through the formulas one at a time, and each value is shown by a
step that could be refused. On the sheet of a script no step is (`recount_sheetOf`), so the
sheet and the tally are taken as a whole here. -/
def perform (surroundings : Surroundings) : Command → Except Failure (String × String)
  | tokens formula json => return (← showTokens formula json, "")
  | ast formula json references => return (← showTree formula json references, "")
  | eval input cells limit => return (← showValue input cells limit, "")
  | run script rows cols recalculates limit format => do
    let s ← sheetOf surroundings script rows cols limit
    if recalculates then
      return (showSheet (s.recalculate limit) format, tallyLine (s.tally limit))
    else return (showSheet s format, "")

/-- Carries out a command. -/
def execute (surroundings : Surroundings) (command : Command) : Outcome :=
  match command.perform surroundings with
  | .ok (stdout, stderr) => .done stdout stderr
  | .error failure => .failed failure

end Command

/-- What the program does when it is given arguments. -/
def outcome (surroundings : Surroundings) (arguments : List String) : Outcome :=
  match Command.read? arguments with
  | some command => command.execute surroundings
  | none => .misused

end CommandLine

end Spreadsheet
