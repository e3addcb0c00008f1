import Spreadsheet.Formula.Catalogue
import Spreadsheet.Formula.Cursor
import Spreadsheet.Formula.Lexeme

/-!
# Evaluation

The value of a formula. Operands and arguments are evaluated from left to right and before what
is above them. A reference to a cell with a formula is followed to that formula, up to a number
of references in one chain.

- `Content`, `Cells`: what a referenced cell holds, and where to look it up.
- `Tree.evaluateWith`: the value of a tree, given the values of its references.
- `follow`: the value of a reference, when so many references may be followed.
- `Tree.evaluate`: the value of a tree.
- `evaluate`, `displayOf`: the value of the text of a formula, and what a cell
  with an input shows.
-/

namespace Spreadsheet

namespace Formula

/-- What a referenced cell holds. -/
inductive Content where
  /-- Nothing was typed into the cell and nothing is shown there. -/
  | absent
  /-- A literal. -/
  | value (v : Value)
  /-- A formula. -/
  | formula (t : Tree)

/-- Where references are looked up, as they are written. -/
abbrev Cells := String → Except Fault Content

/-- How many references may be followed in one chain, unless something else is said. -/
def usualLimit : Nat := 64

/-- The result of an operator on two values. -/
def Operator.operate (op : Operator) (x y : Value) : Except Fault Value :=
  match x.number?, y.number? with
  | some a, some b =>
    if op = .divide ∧ b == 0 then .error .divisionByZero
    else
      match op.result? a b with
      | some z => .ok (.number z)
      | none => .error (.unsupportedOperator op)
  | _, _ => .error .invalidOperation

/-- The result of a call. -/
def callFunction (name : String) (arguments : List Value) : Except Fault Value :=
  match Catalogue.builtIn.find? name with
  | some f => f.call arguments
  | none => .error (.unknownFunction (Text.toLower name))

namespace Tree

mutual

/-- The value of a tree, given the values of its references. -/
def evaluateWith (reference : String → Except Fault Value) : Tree → Except Fault Value
  | .number x => .ok (.number x)
  | .text s => .ok (.text s)
  | .reference address => reference address
  | .operation op left right => do
    let x ← left.evaluateWith reference
    let y ← right.evaluateWith reference
    op.operate x y
  | .call function arguments => do
    let values ← evaluateAllWith reference arguments
    callFunction function values

/-- The values of several trees, from left to right. -/
def evaluateAllWith (reference : String → Except Fault Value) :
    List Tree → Except Fault (List Value)
  | [] => .ok []
  | t :: ts => do
    let v ← t.evaluateWith reference
    let vs ← evaluateAllWith reference ts
    return v :: vs

end

end Tree

/-- The value of a reference, when so many references may be followed. -/
def follow (cells : Option Cells) : Nat → String → Except Fault Value
  | limit, address =>
    match cells with
    | none => .error .noCells
    | some look =>
      match limit with
      | 0 => .error .chainTooLong
      | limit + 1 => do
        match ← look address with
        | .absent => return .empty
        | .value v => return v
        | .formula t => t.evaluateWith (follow cells limit)

/-- The value of a tree, when so many references may be followed in one chain. -/
def Tree.evaluate (cells : Option Cells) (limit : Nat) (t : Tree) : Except Fault Value :=
  t.evaluateWith (follow cells limit)

/-- The tree of the text of a formula. -/
def read (formula : String) : Except Fault Tree := do
  parse (← tokenize formula)

/-- The value of the text of a formula. -/
def evaluate (cells : Option Cells) (limit : Nat) (formula : String) : Except Fault Value := do
  (← read formula).evaluate cells limit

/-- The text that shows a value or a fault. -/
def render : Except Fault Value → String
  | .ok v => v.display
  | .error fault => "ERROR: " ++ fault.message

/-- What a cell with the given input shows: a literal shows itself, and a formula its value. -/
def displayOf (cells : Option Cells) (limit : Nat) (input : String) : String :=
  match formulaBody? input with
  | some formula => render (evaluate cells limit formula)
  | none => input

end Formula

end Spreadsheet
