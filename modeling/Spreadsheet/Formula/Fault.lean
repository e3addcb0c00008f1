import Spreadsheet.Formula.Operator

/-!
# Faults of formulas

- `Fault`: everything that can be wrong with a formula.
- `Fault.message`: the wording; the grid shows it after `ERROR: `.
- `Fault.stage`: whether the fault is found in the characters, in the tokens or in the values.
-/

namespace Spreadsheet

namespace Formula

/-- The greatest height of a tree, and the greatest number of open parentheses
on the way to it. -/
def depthLimit : Nat := 256

/-- When a fault is found. -/
inductive Stage where
  | tokenize
  | parse
  | evaluate
deriving DecidableEq, Repr

/-- Everything that can be wrong with a formula. -/
inductive Fault where
  /-- A character that starts no token. -/
  | unknownCharacter (c : Char)
  /-- A quoted text without its second quote. -/
  | unterminatedText
  /-- A token that cannot stand where it does. -/
  | unexpectedToken (text : String)
  /-- A parenthesis around an expression that is not closed. -/
  | unclosedGroup
  /-- The name of a function without a parenthesis after it. -/
  | missingArguments
  /-- An argument list that is not closed. -/
  | unclosedArguments
  /-- A number token that is no numeral. -/
  | invalidNumber (text : String)
  /-- A tree that is too high, or too many open parentheses. -/
  | tooDeep
  /-- An operand that is no number. -/
  | invalidOperation
  /-- A division by zero. -/
  | divisionByZero
  /-- An operator that is not one of arithmetic. -/
  | unsupportedOperator (op : Operator)
  /-- A name that no function has, in lower case. -/
  | unknownFunction (name : String)
  /-- An argument, or a number of arguments, that a function does not take. -/
  | invalidArgument (function : String)
  /-- A reference where there are no cells to refer to. -/
  | noCells
  /-- More references in a chain than may be followed. -/
  | chainTooLong
  /-- A reference that names no cell of the grid. -/
  | invalidReference (address : String)
deriving DecidableEq, Repr

namespace Fault

/-- The wording of a fault. -/
def message : Fault → String
  | unknownCharacter c => s!"Unknown character: {c}"
  | unterminatedText => "Unterminated string"
  | unexpectedToken text => s!"Unexpected token: {text}"
  | unclosedGroup => "Expected ')' to close expression"
  | missingArguments => "Expected '(' after function name"
  | unclosedArguments => "Expected ')' after function arguments"
  | invalidNumber text => s!"Invalid number: {text}"
  | tooDeep => s!"Expression nested deeper than {depthLimit} levels"
  | invalidOperation => "Invalid operation"
  | divisionByZero => "Division by zero"
  | unsupportedOperator _ => "Unsupported operator"
  | unknownFunction _ => "Function not implemented"
  | invalidArgument function => s!"Invalid argument: {function}"
  | noCells => "Context or getCell method not provided"
  | chainTooLong => "Reference cycle or depth exceeded"
  | invalidReference address => s!"Invalid reference: {address}"

/-- When a fault is found. -/
def stage : Fault → Stage
  | unknownCharacter _ | unterminatedText => .tokenize
  | unexpectedToken _ | unclosedGroup | missingArguments | unclosedArguments | invalidNumber _
  | tooDeep => .parse
  | invalidOperation | divisionByZero | unsupportedOperator _ | unknownFunction _
  | invalidArgument _ | noCells | chainTooLong | invalidReference _ => .evaluate

end Fault

end Formula

end Spreadsheet
