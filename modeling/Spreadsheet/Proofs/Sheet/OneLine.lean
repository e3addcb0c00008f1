import Spreadsheet.Proofs.Formula.OneLine
import Spreadsheet.Proofs.Script.EditLines
import Spreadsheet.Proofs.Sheet.Reachable

/-!
# Sheets without line feeds

The inputs of a script stand each on a line of their own, so a sheet that is made by a script
holds no line feed, and it shows none however it is calculated.

- `Sheet.OneLine`: no cell holds or shows a line feed.
- `Sheet.OneLine.displayOf`: on such a sheet every input without a line feed is
  shown without one.
- `Sheet.OneLine.edit`, `Sheet.OneLine.recalculate`, `Sheet.OneLine.script`:
  what keeps a sheet so.
- `Script.oneLine_of_parse`: the inputs of a script.
-/

namespace Spreadsheet

open Formula

/-! ## Sheets -/

namespace Sheet

/-- No cell has a line feed, neither in what was typed nor in what is shown. -/
def OneLine (s : Sheet) : Prop :=
  ∀ e ∈ s.entries, Text.OneLine e.2.input ∧ Text.OneLine e.2.display

namespace OneLine

variable {s t : Sheet} (hs : s.OneLine)

include hs

theorem inputAt (p : Position) : Text.OneLine (s.inputAt p) := by
  cases hcell : s.cell? p with
  | none =>
    rw [inputAt_of_none hcell]
    decide
  | some c =>
    rw [inputAt_of_cell? hcell]
    exact (hs _ (Entries.mem_of_find?_eq_some hcell)).1

theorem displayAt (p : Position) : Text.OneLine (s.displayAt p) := by
  unfold Sheet.displayAt
  cases hcell : s.cell? p with
  | none =>
    show Text.OneLine ""
    decide
  | some c => exact (hs _ (Entries.mem_of_find?_eq_some hcell)).2

/-- One step of a chain of references leads to an input without a line feed. -/
theorem keepsLine_content (reference : String → Except Fault Value) (h : KeepsLine reference) :
    KeepsLine fun a => s.content a >>= Content.evaluateWith reference := by
  intro a ha
  show Text.OneLine (render (s.content a >>= Content.evaluateWith reference))
  rw [content_bind]
  cases s.resolve a with
  | error e => exact oneLine_render_error (.append (by decide) ha)
  | ok address => exact h.contentOf (hs.inputAt address.position)

theorem displayOf (limit : Nat) {input : String} (hinput : Text.OneLine input) :
    Text.OneLine (s.displayOf limit input) :=
  oneLine_displayOf (keepsLine_follow hs.keepsLine_content limit) hinput

theorem store {input display : String} (hinput : Text.OneLine input)
    (hdisplay : Text.OneLine display) (p : Position) :
    (s.store p ⟨input, display⟩).OneLine := by
  intro e he
  rcases mem_entries_store he with ⟨rfl, -⟩ | he
  · exact ⟨hinput, hdisplay⟩
  · exact hs e he

theorem recalculate (limit : Nat) : (s.recalculate limit).OneLine := by
  intro e he
  obtain ⟨⟨p, c⟩, hmem, rfl⟩ := List.mem_map.mp he
  obtain ⟨hinput, hdisplay⟩ := hs _ hmem
  show Text.OneLine (s.refresh limit c).input ∧ Text.OneLine (s.refresh limit c).display
  by_cases hc : c.isFormula = true
  · rw [refresh_of_isFormula hc]
    exact ⟨hinput, hs.displayOf limit hinput⟩
  · rw [refresh_of_not_isFormula hc]
    exact ⟨hinput, hdisplay⟩

theorem edit {mode : EditMode} {p : Position} {input shown : String}
    (hinput : Text.OneLine input) (h : s.edit mode p input = .ok (t, shown)) : t.OneLine := by
  obtain ⟨typed, htyped, ht, -⟩ := edit_eq_ok_iff.mp h
  obtain ⟨-, rfl⟩ := setInput_eq_ok_iff.mp htyped
  have htyped : (s.store p (.ofInput input)).OneLine := hs.store hinput hinput p
  rcases ht with ⟨-, rfl⟩ | ⟨-, ht⟩
  · exact htyped.recalculate mode.limit
  · obtain ⟨-, rfl⟩ := setDisplay_eq_ok_iff.mp ht
    exact htyped.store (htyped.inputAt p) (htyped.displayOf mode.limit hinput) p

theorem script (mode : EditMode) {edits : List Edit}
    (hedits : ∀ e ∈ edits, Text.OneLine e.input) : (Script.apply s mode edits).1.OneLine :=
  script_of_edits (fun e he _ _ _ hs h => hs.edit (hedits e he) h) hs

end OneLine

end Sheet

/-! ## Scripts -/

namespace Script

theorem dropReturn_subset (line : List Char) : dropReturn line ⊆ line := by
  unfold dropReturn
  split
  · next rest hline =>
    intro c hc
    have hmem : c ∈ line.reverse := by
      rw [hline]
      exact List.mem_cons_of_mem _ (List.mem_reverse.mp hc)
    exact List.mem_reverse.mp hmem
  · exact List.Subset.refl line

/-- No line of a text has a line feed. -/
theorem oneLine_of_mem_lines {text line : String} (h : line ∈ lines text) :
    Text.OneLine line := by
  obtain ⟨ls, last, htext, hls, hlast, -⟩ := exists_feeds text.toList
  rw [lines, htext, linesFrom_feeds hls, linesFrom_of_not_mem hlast] at h
  obtain ⟨cs, hcs, rfl⟩ := List.mem_map.mp h
  show '\n' ∉ (String.ofList cs).toList
  rw [String.toList_ofList]
  rcases List.mem_append.mp hcs with hcs | hcs
  · obtain ⟨l, hl, rfl⟩ := List.mem_map.mp hcs
    exact fun hmem => hls l hl (dropReturn_subset l hmem)
  · split at hcs
    · cases hcs
    · rwa [List.mem_singleton.mp hcs]

/-- The inputs of a script are without line feeds. -/
theorem oneLine_of_parse {script : String} {edits : List Edit} (h : parse script = .ok edits) :
    ∀ e ∈ edits, Text.OneLine e.input := by
  intro e he
  obtain ⟨-, line, hline, hread⟩ := (parseLines_numbers 1 h).2 e he
  exact (oneLine_of_mem_lines (List.mem_of_getElem? hline)).of_subset
    (Edit.input_subset_of_parseLine hread)

end Script

end Spreadsheet
