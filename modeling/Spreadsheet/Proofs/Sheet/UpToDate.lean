import Spreadsheet.Proofs.Sheet.Operations
import Spreadsheet.Proofs.Sheet.Reads

/-!
# Cells that are up to date

If each edit calculates all formulas again, then after each edit every cell shows what its input
is worth on the sheet as it now is, however many cells the edit made worth something else.

- `Sheet.ShowsLiterals`: literals show themselves, as after typing.
- `Sheet.UpToDate`: all cells show what their inputs are worth.
- `ShowsLiterals.recalculate`: a recalculation brings the formulas up to date.
- `UpToDate.edit`, `UpToDate.run`: an edit, and a run of edits.
- `run_recalculating_edits`: the cells after any run of edits of an empty sheet.
-/

namespace Spreadsheet

namespace Sheet

open Formula

/-- Every literal shows itself. -/
def ShowsLiterals (s : Sheet) : Prop :=
  ∀ e ∈ s.entries, formulaBody? e.2.input = none → e.2.display = e.2.input

/-- Every cell shows what its input is worth on the sheet. -/
def UpToDate (s : Sheet) (limit : Nat) : Prop :=
  ∀ e ∈ s.entries, e.2.display = s.displayOf limit e.2.input

variable {s t : Sheet} {limit : Nat}

theorem UpToDate.showsLiterals (h : s.UpToDate limit) : s.ShowsLiterals := by
  intro e he hliteral
  rw [h e he, displayOf_literal s limit hliteral]

theorem ShowsLiterals.setInput (h : s.ShowsLiterals) {p : Position} {input : String}
    (ht : s.setInput p input = .ok t) : t.ShowsLiterals := by
  obtain ⟨-, rfl⟩ := setInput_eq_ok_iff.mp ht
  intro e he hliteral
  rcases mem_entries_store he with ⟨rfl, -⟩ | he
  · rfl
  · exact h e he hliteral

/-- A recalculation leaves literals as they are and shows the values of all formulas. None of
these values depends on what was shown before. -/
theorem ShowsLiterals.recalculate (h : s.ShowsLiterals) (limit : Nat) :
    (s.recalculate limit).UpToDate limit := by
  intro e he
  obtain ⟨⟨p, c⟩, hc, rfl⟩ := List.mem_map.mp he
  show (s.refresh limit c).display =
    (s.recalculate limit).displayOf limit (s.refresh limit c).input
  rw [(sameInputs_recalculate s limit).displayOf, refresh_input]
  by_cases hformula : c.isFormula = true
  · rw [refresh_of_isFormula hformula]
  · have hliteral : formulaBody? c.input = none := Cell.body_eq_none hformula
    rw [refresh_of_not_isFormula hformula, displayOf_literal s limit hliteral]
    exact h (p, c) hc hliteral

theorem UpToDate.edit (h : s.UpToDate limit) {p : Position} {input shown : String}
    (ht : s.edit ⟨limit, true⟩ p input = .ok (t, shown)) : t.UpToDate limit := by
  obtain ⟨typed, htyped, ⟨-, rfl⟩ | ⟨hmode, -⟩, -⟩ := edit_eq_ok_iff.mp ht
  · exact (h.showsLiterals.setInput htyped).recalculate limit
  · cases hmode

/-- An edit that is refused leaves all cells as they were, and so up to date. -/
theorem UpToDate.after (h : s.UpToDate limit) (p : Position) (input : String) :
    (s.after (.edit ⟨limit, true⟩ p input)).UpToDate limit :=
  after_edit_of h fun _ _ hedit => h.edit hedit

theorem UpToDate.run (h : s.UpToDate limit) (inputs : List (Position × String)) :
    (s.run (inputs.map fun i => .edit ⟨limit, true⟩ i.1 i.2)).UpToDate limit := by
  induction inputs generalizing s with
  | nil => exact h
  | cons i inputs ih => exact ih (h.after i.1 i.2)

theorem upToDate_empty (name : String) (rows cols limit : Nat) :
    UpToDate ⟨name, rows, cols, []⟩ limit :=
  nofun

/-- When each edit calculates all formulas again, no cell is ever out of date: after any edits
of an empty sheet, refused ones included, every cell shows what its input is worth now. A
literal shows itself, and a formula its value or its fault. -/
theorem run_recalculating_edits (name : String) (rows cols limit : Nat)
    (inputs : List (Position × String)) :
    let s := run ⟨name, rows, cols, []⟩ (inputs.map fun i => .edit ⟨limit, true⟩ i.1 i.2)
    ∀ p c, s.cell? p = some c →
      c.display = s.displayOf limit c.input ∧
      (formulaBody? c.input = none → c.display = c.input) ∧
      (∀ formula, formulaBody? c.input = some formula →
        c.display = render (s.valueOf limit formula)) := by
  intro s p c hc
  have hs : s.UpToDate limit := (upToDate_empty name rows cols limit).run inputs
  have hdisplay : c.display = s.displayOf limit c.input :=
    hs (p, c) (Entries.mem_of_find?_eq_some hc)
  refine ⟨hdisplay, fun hliteral => ?_, fun formula hformula => ?_⟩
  · rw [hdisplay, displayOf_literal s limit hliteral]
  · rw [hdisplay, displayOf_formula s limit hformula]

/-- The first formula is calculated again when the second one closes a circle,
and then shows a fault. -/
theorem run_recalculating_edits_circle :
    let s := run ⟨"Sheet1", 1, 2, []⟩
      ([(⟨0, 0⟩, "=B1"), (⟨0, 1⟩, "=A1")].map fun i => .edit ⟨usualLimit, true⟩ i.1 i.2)
    s.cell? ⟨0, 0⟩ = some ⟨"=B1", "ERROR: Reference cycle or depth exceeded"⟩ := by
  intro s
  have hresolveA1 : s.resolve "A1" = .ok ⟨⟨0, 0⟩, false, false⟩ := rfl
  have hresolveB1 : s.resolve "B1" = .ok ⟨⟨0, 1⟩, false, false⟩ := rfl
  have hinputA1 : s.inputAt ⟨0, 0⟩ = "=B1" := rfl
  have hinputB1 : s.inputAt ⟨0, 1⟩ = "=A1" := rfl
  have hA1 : s.content "A1" = .ok (.formula (.reference "B1")) :=
    content_of_formulaBody? hresolveA1 (by rw [hinputA1]; rfl) read_B1
  have hB1 : s.content "B1" = .ok (.formula (.reference "A1")) :=
    content_of_formulaBody? hresolveB1 (by rw [hinputB1]; rfl) read_A1
  have hvalue : s.valueOf usualLimit "B1" = .error .chainTooLong :=
    bind_eq_error_iff.mpr (.inr ⟨_, read_B1, follow_eq_chainTooLong hB1 hA1 usualLimit⟩)
  obtain ⟨c, hc, hinput⟩ : ∃ c, s.cell? ⟨0, 0⟩ = some c ∧ c.input = "=B1" := ⟨_, rfl, rfl⟩
  have hshown :=
    (run_recalculating_edits "Sheet1" 1 2 usualLimit [(⟨0, 0⟩, "=B1"), (⟨0, 1⟩, "=A1")]
      ⟨0, 0⟩ c hc).2.2 "B1" (by rw [hinput]; rfl)
  obtain ⟨input, display⟩ := c
  obtain rfl : input = "=B1" := hinput
  obtain rfl : display = render (s.valueOf usualLimit "B1") := hshown
  rw [hc, hvalue]
  rfl

end Sheet

end Spreadsheet
