import Spreadsheet.Sheet.Recalculation

/-!
# Editing

An edit types an input into a cell and calculates it there and then, alone or
with all other formulas.

- `Sheet.EditMode`: how an edit calculates.
- `Sheet.edit`, `Sheet.editAt`: edits the cell at a position or at an address.
-/

namespace Spreadsheet

namespace Sheet

/-- How an edit calculates. -/
structure EditMode where
  /-- How many references may be followed in one chain. -/
  limit : Nat
  /-- Are all formulas calculated again, or only the edited one? -/
  recalculates : Bool
deriving DecidableEq, Repr

/-- Calculates the edited formula only. -/
def EditMode.usual : EditMode := ⟨Formula.usualLimit, false⟩

/-- Types an input into a cell. The sheet that results comes with what the cell now shows. -/
def edit (s : Sheet) (mode : EditMode) (p : Position) (input : String) :
    Except Error (Sheet × String) := do
  let typed ← s.setInput p input
  let shown ←
    if mode.recalculates then pure (typed.recalculate mode.limit)
    else typed.setDisplay p (typed.displayOf mode.limit input)
  return (shown, shown.displayAt p)

/-- Types an input into the cell at an address, and calculates that cell only. -/
def editAt (s : Sheet) (address input : String) : Except Error (Sheet × String) := do
  s.edit .usual (← s.resolve address).position input

end Sheet

end Spreadsheet
