import Spreadsheet.Proofs.Sheet.Addressing
import Spreadsheet.Proofs.Sheet.FaultOrigins

/-!
# Addresses that are shown

Each cell that is kept is listed with an address. A sheet may have more rows and columns than an
address can name, and within what can be named the address leads back to the cell. Past that it
leads nowhere, and the cell is found by its position only.

- `Position.HasAddress`: the positions that an address can name.
- `resolve_text_of_hasAddress`, `resolve_text_of_not_hasAddress`: what the
  address of a position leads to.
- `content_ne_invalidReference`: a formula can refer to where an address leads.
- `lookUp_text`: the cells that are kept after any run, and their addresses.
-/

namespace Spreadsheet

/-- Is there an address for the row and the column? -/
def Position.HasAddress (p : Position) : Prop := p.row < Address.rowCount ∧ p.col < Column.count

namespace Sheet

open Formula

section

variable {s : Sheet} {p : Position}

theorem resolve_text_of_hasAddress (hp : s.contains p = true) (h : p.HasAddress) :
    s.resolve (Address.ofPosition p).text = .ok (Address.ofPosition p) :=
  resolve_eq_ok_iff.mpr ⟨Address.parse_text h.1 h.2, hp⟩

/-- Of a column and a row past the last ones, the column is reported. -/
theorem resolve_text_of_not_hasAddress (h : ¬ p.HasAddress) :
    s.resolve (Address.ofPosition p).text = .error (.address
      (if p.col < Column.count then .rowTooLarge (min p.row Address.reportedRowLimit)
        else .columnTooLarge)) := by
  have hparse := Address.parse_text_eq (.ofPosition p)
  rw [Address.ofPosition_position] at hparse
  unfold resolve
  rw [hparse]
  by_cases hcol : p.col < Column.count
  · have hrow : ¬ p.row < Address.rowCount := fun hrow => h ⟨hrow, hcol⟩
    rw [if_pos hcol, if_pos hcol, if_neg hrow]
    rfl
  · rw [if_neg hcol, if_neg hcol]
    rfl

/-- A look at a cell of the grid may have a fault of the formula there, but none
of its address. -/
theorem content_ne_invalidReference {text : String} {a : Address} (h : s.resolve text = .ok a)
    (b : String) : s.content text ≠ .error (.invalidReference b) := by
  intro hcontent
  rcases content_eq_error_iff.mp hcontent with
    ⟨-, error, herror⟩ | ⟨-, -, formula, -, -, -, hread⟩
  · cases h.symm.trans herror
  · exact stage_ne_evaluate_of_read hread rfl

end

/-- After any run from an empty sheet of any dimensions, a cell that is kept is found under the
address that is shown for it, and a formula that consists of this address is a reference that
names a cell, if its row and column are ones that an address can name. Otherwise the address is
refused for its column or its row. -/
theorem lookUp_text (name : String) (rows cols : Nat) (operations : List Operation) :
    let s := run ⟨name, rows, cols, []⟩ operations
    ∀ p c, (p, c) ∈ s.entries →
      let text := (Address.ofPosition p).text
      read text = .ok (.reference text) ∧
      (p.HasAddress →
        s.lookUp text = .ok (some c) ∧ ∀ a, s.content text ≠ .error (.invalidReference a)) ∧
      (¬ p.HasAddress →
        s.lookUp text = .error (.address
          (if p.col < Column.count then .rowTooLarge (min p.row Address.reportedRowLimit)
            else .columnTooLarge)) ∧
        s.content text = .error (.invalidReference text)) := by
  intro s p c hmem text
  have hs : s.WellFormed := ((reachable_empty name rows cols).run operations).wellFormed
  have hcell : s.cell? p = some c := (Entries.find?_eq_some_iff hs.ordered).mpr hmem
  refine ⟨?_, fun h => ?_, fun h => ?_⟩
  · exact read_reference (contains_reference_iff.mpr ⟨_, _, _, _, Address.written_text _⟩)
  · have hresolve : s.resolve text = .ok (Address.ofPosition p) :=
      resolve_text_of_hasAddress (hs.contains_of_cell? hcell) h
    refine ⟨?_, content_ne_invalidReference hresolve⟩
    rw [lookUp_of_ok hresolve]
    exact congrArg Except.ok hcell
  · have hresolve := resolve_text_of_not_hasAddress (s := s) h
    refine ⟨?_, content_of_error hresolve⟩
    rw [lookUp, hresolve]
    rfl

/-- The last address is that of a cell. -/
theorem lookUp_text_last :
    let p : Position := ⟨Address.rowCount - 1, Column.count - 1⟩
    let s := run (new Address.rowCount Column.count) [.setInput p "x"]
    p.HasAddress ∧ s.lookUp (Address.ofPosition p).text = .ok (some (.ofInput "x")) := by
  intro p s
  have hp : p.HasAddress := ⟨by decide, by decide⟩
  have hmem : (p, Cell.ofInput "x") ∈ s.entries := List.mem_singleton.mpr rfl
  exact ⟨hp, ((lookUp_text "Sheet1" _ _ [.setInput p "x"] p _ hmem).2.1 hp).1⟩

/-- One row more, and there is a cell that is not found under the address that
is shown for it. -/
theorem lookUp_text_pastRows :
    let p : Position := ⟨Address.rowCount, 0⟩
    let s := run (new (Address.rowCount + 1) 1) [.setInput p "x"]
    (p, Cell.ofInput "x") ∈ s.entries ∧
      s.lookUp (Address.ofPosition p).text ≠ .ok (some (.ofInput "x")) ∧
      s.content (Address.ofPosition p).text =
        .error (.invalidReference (Address.ofPosition p).text) := by
  intro p s
  have hp : ¬ p.HasAddress := fun h => absurd h.1 (by decide)
  have hresolve := resolve_text_of_not_hasAddress (s := s) hp
  refine ⟨List.mem_singleton.mpr rfl, ?_, content_of_error hresolve⟩
  rw [lookUp, hresolve]
  intro h
  cases h

end Sheet

end Spreadsheet
