/-!
# Operators

The binary operators of formulas. Two tiers bind with different strength: `*` and `/` bind
tightest, and all others share the looser tier. Only the four of arithmetic have a result.

- `Operator`, `Operator.symbol`, `Operator.ofSymbol?`: an operator and its spelling.
- `Operator.bindsTightly`: the tier.
- `Operator.result?`: the result on two numbers.
- `ofSymbol?_symbol`, `symbol_of_ofSymbol?`: spelling and reading agree.
-/

namespace Spreadsheet

namespace Formula

/-- A binary operator. -/
inductive Operator where
  | multiply
  | divide
  | add
  | subtract
  | lessThan
  | greaterThan
  | equal
  | notEqual
  | concat
  | pipe
  | range
deriving DecidableEq, Repr

namespace Operator

/-- The spelling of an operator. -/
def symbol : Operator → String
  | multiply => "*"
  | divide => "/"
  | add => "+"
  | subtract => "-"
  | lessThan => "<"
  | greaterThan => ">"
  | equal => "="
  | notEqual => "<>"
  | concat => "&"
  | pipe => "|"
  | range => ":"

/-- All operators. -/
def all : List Operator :=
  [multiply, divide, add, subtract, lessThan, greaterThan, equal, notEqual, concat, pipe, range]

/-- The operator with a spelling. -/
def ofSymbol? (s : String) : Option Operator := all.find? fun op => op.symbol == s

/-- The name of an operator in an outline of a formula. -/
def name : Operator → String
  | multiply => "Multiply"
  | divide => "Divide"
  | add => "Add"
  | subtract => "Subtract"
  | lessThan => "LessThan"
  | greaterThan => "GreaterThan"
  | equal => "Equal"
  | notEqual => "NotEqual"
  | concat => "Concat"
  | pipe => "Pipe"
  | range => "Range"

/-- Does the operator belong to the tier of `*` and `/`? -/
def bindsTightly : Operator → Bool
  | multiply | divide => true
  | _ => false

/-- The result on two numbers, if the operator is one of arithmetic. -/
def result? (op : Operator) (x y : Float) : Option Float :=
  match op with
  | add => some (x + y)
  | subtract => some (x - y)
  | multiply => some (x * y)
  | divide => some (x / y)
  | _ => none

/-! ## Spelling and reading -/

@[simp] theorem ofSymbol?_symbol (op : Operator) : ofSymbol? op.symbol = some op := by
  cases op <;> decide

theorem symbol_of_ofSymbol? {s : String} {op : Operator} (h : ofSymbol? s = some op) :
    op.symbol = s := by
  simpa using List.find?_some h

end Operator

end Formula

end Spreadsheet
