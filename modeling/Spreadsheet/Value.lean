import Spreadsheet.Number.Numeral
import Spreadsheet.Number.Style
import Spreadsheet.Text.Blank

/-!
# Values and cells

- `Value`: what a cell or a formula is worth: nothing, a number or a text.
- `Value.ofInput`: the value of a literal, `Value.display` the text that shows a value.
- `Cell`: what was typed into a cell and what the grid shows there.
- `formulaBody?`: the formula in an input, if it is one.
-/

namespace Spreadsheet

/-- What a cell or a formula is worth. -/
inductive Value where
  | empty
  | number (x : Float)
  | text (s : String)
deriving Repr, Inhabited

namespace Value

/-- The value of a literal: nothing if it is blank, a number if it reads as a finite one between
its blank ends, and else the text as it was typed. -/
def ofInput (input : String) : Value :=
  let trimmed := Text.trim input.toList
  if trimmed.isEmpty then .empty
  else
    match (Numeral.ofChars? trimmed).map Numeral.toFloat with
    | some x => if x.isFinite then .number x else .text input
    | none => .text input

/-- The number, if the value is one. -/
def number? : Value → Option Float
  | .number x => some x
  | _ => none

/-- The text that shows a value. -/
def display : Value → String
  | .empty => ""
  | .number x => NumberStyle.grid.render x
  | .text s => s

end Value

/-- The formula in an input: what follows a leading `=`, without blank ends. Any
other input is a literal. -/
def formulaBody? (input : String) : Option String :=
  match input.toList with
  | '=' :: body => some (.ofList (Text.trim body))
  | _ => none

/-- What was typed into a cell and what the grid shows there. -/
structure Cell where
  input : String
  display : String
deriving DecidableEq, Repr

namespace Cell

/-- A cell that shows what was typed. -/
def ofInput (input : String) : Cell := ⟨input, input⟩

/-- Was a formula typed? -/
def isFormula (c : Cell) : Bool := (formulaBody? c.input).isSome

/-- Is there nothing typed and nothing shown? -/
def isBlank (c : Cell) : Bool := c.input.isEmpty && c.display.isEmpty

/-- A formula is an input with `=` in front. -/
theorem isFormula_iff {c : Cell} : c.isFormula = true ↔ c.input.toList.head? = some '=' := by
  unfold isFormula formulaBody?
  split
  · next body h =>
    rw [h]
    exact ⟨fun _ => rfl, fun _ => rfl⟩
  · next h =>
    constructor
    · nofun
    · intro hhead
      obtain ⟨body, hbody⟩ := List.head?_eq_some_iff.mp hhead
      exact absurd hbody (h body)

theorem isFormula_eq_false_iff {c : Cell} :
    c.isFormula = false ↔ formulaBody? c.input = none := by
  rw [isFormula, Option.isSome_eq_false_iff, Option.isNone_iff_eq_none]

theorem isBlank_iff {c : Cell} : c.isBlank = true ↔ c.input = "" ∧ c.display = "" := by
  rw [isBlank, Bool.and_eq_true, String.isEmpty_iff, String.isEmpty_iff]

@[simp] theorem isBlank_ofInput (input : String) : (ofInput input).isBlank = input.isEmpty := by
  simp [ofInput, isBlank]

end Cell

end Spreadsheet
