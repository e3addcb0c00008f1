import Spreadsheet.Formula.Evaluation
import Spreadsheet.Sheet.Basic

/-!
# What formulas see of a sheet

Formulas read what was typed into cells and never what cells show.

- `Sheet.content`: what a formula sees of a cell.
- `Sheet.valueOf`, `Sheet.displayOf`: the value of a formula on a sheet, and
  what an input shows there.
-/

namespace Spreadsheet

namespace Sheet

open Formula

/-- What a formula sees of the cell at an address. -/
def content (s : Sheet) (address : String) : Except Fault Content :=
  match s.lookUp address with
  | .error _ => .error (.invalidReference address)
  | .ok none => .ok .absent
  | .ok (some c) =>
    match formulaBody? c.input with
    | some formula => (read formula).map .formula
    | none => .ok (.value (.ofInput c.input))

/-- The value of the text of a formula on a sheet. -/
def valueOf (s : Sheet) (limit : Nat) (formula : String) : Except Fault Value :=
  evaluate (some s.content) limit formula

/-- What a cell of the sheet with the given input shows. -/
def displayOf (s : Sheet) (limit : Nat) (input : String) : String :=
  Formula.displayOf (some s.content) limit input

theorem displayOf_literal (s : Sheet) (limit : Nat) {input : String}
    (h : formulaBody? input = none) : s.displayOf limit input = input := by
  simp [displayOf, Formula.displayOf, h]

theorem displayOf_formula (s : Sheet) (limit : Nat) {input formula : String}
    (h : formulaBody? input = some formula) :
    s.displayOf limit input = render (s.valueOf limit formula) := by
  simp [displayOf, Formula.displayOf, h, valueOf]

end Sheet

end Spreadsheet
