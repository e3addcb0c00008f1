import Spreadsheet.Sheet.Content

/-!
# Recalculation

All formulas of a sheet are calculated from what was typed into its cells, so
their order does not matter.

- `Sheet.recalculate`: shows the values of all formulas.
- `Sheet.Tally`, `Sheet.tally`: what a recalculation counts.
-/

namespace Spreadsheet

namespace Sheet

/-- A cell as a recalculation leaves it: a formula shows its value on the sheet, and a
literal stays as it is. -/
def refresh (s : Sheet) (limit : Nat) (c : Cell) : Cell :=
  if c.isFormula then { c with display := s.displayOf limit c.input } else c

/-- Shows the values of all formulas, as they are on the sheet. -/
def recalculate (s : Sheet) (limit : Nat) : Sheet :=
  { s with entries := s.entries.map fun (p, c) => (p, s.refresh limit c) }

/-- What a recalculation counts. -/
structure Tally where
  /-- The formulas on the sheet. -/
  formulas : Nat
  /-- The formulas that were calculated. -/
  calculated : Nat
  /-- The formulas that have a fault in place of a value. -/
  faults : Nat
deriving DecidableEq, Repr

/-- Has a cell a formula with a fault in place of a value? -/
def isFaulty (s : Sheet) (limit : Nat) (c : Cell) : Bool :=
  match formulaBody? c.input with
  | some formula => !(s.valueOf limit formula).isOk
  | none => false

/-- What a recalculation of the sheet counts. -/
def tally (s : Sheet) (limit : Nat) : Tally where
  formulas := s.formulas.length
  calculated := s.formulas.length
  faults := s.entries.countP fun e => s.isFaulty limit e.2

/-! ## What stays -/

@[simp] theorem refresh_input (s : Sheet) (limit : Nat) (c : Cell) :
    (s.refresh limit c).input = c.input := by
  unfold refresh
  split <;> rfl

@[simp] theorem recalculate_rows (s : Sheet) (limit : Nat) :
    (s.recalculate limit).rows = s.rows := rfl

@[simp] theorem recalculate_cols (s : Sheet) (limit : Nat) :
    (s.recalculate limit).cols = s.cols := rfl

end Sheet

end Spreadsheet
