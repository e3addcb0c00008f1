import Spreadsheet.Proofs.Formula.Stages
import Spreadsheet.Proofs.Sheet.Reads

/-!
# Where faults come from

A fault of a formula is found where its stage says. A fault of reading is one of the formula
itself, or of a formula in a cell to which its references lead; it is passed on as it is.

- `contentOf_eq_error_iff`, `Sheet.content_eq_error_iff`: the faults of a look at a cell.
- `Fault.stage_of_isOfOperands`: operators and functions find faults of evaluation.
- `Sheet.HoldsUnreadable`: a cell with a formula that cannot be read.
- `Sheet.valueOf_error_cases`: everything that a fault of a formula on a sheet can come from.
- `Sheet.fault_by_stage`: the faults of each stage.
-/

namespace Spreadsheet

namespace Formula

theorem Fault.stage_of_isOfOperands {e : Fault} (h : e.isOfOperands = true) :
    e.stage = .evaluate := by
  cases e with
  | invalidOperation | divisionByZero | unsupportedOperator _ | unknownFunction _
  | invalidArgument _ => rfl
  | _ => cases h

/-- A look at a literal has no fault, and a look at a formula has that of reading it. -/
theorem contentOf_eq_error_iff {input : String} {e : Fault} :
    contentOf input = .error e ↔
      ∃ formula, formulaBody? input = some formula ∧ read formula = .error e := by
  unfold contentOf
  cases formulaBody? input with
  | none => exact ⟨nofun, nofun⟩
  | some formula =>
    constructor
    · intro h
      exact ⟨formula, rfl, map_eq_error_iff.mp h⟩
    · rintro ⟨_, hformula, h⟩
      cases hformula
      exact map_eq_error_iff.mpr h

end Formula

namespace Sheet

open Formula

/-- The cell at an address holds a formula that cannot be read, for the given fault. -/
def HoldsUnreadable (s : Sheet) (a : String) (e : Fault) : Prop :=
  ∃ address c formula, s.resolve a = .ok address ∧ s.cell? address.position = some c ∧
    formulaBody? c.input = some formula ∧ read formula = .error e

section

variable {s : Sheet} {a formula : String} {e : Fault}

/-- A look at a cell has a fault for an address that names no cell, or for a
formula that cannot be read. -/
theorem content_eq_error_iff : s.content a = .error e ↔
    (e = .invalidReference a ∧ ∃ error, s.resolve a = .error error) ∨
    s.HoldsUnreadable a e := by
  cases haddress : s.resolve a with
  | error error =>
    rw [content_of_error haddress]
    constructor
    · intro h
      cases h
      exact .inl ⟨rfl, error, rfl⟩
    · rintro (⟨rfl, -⟩ | ⟨address, -, -, h, -⟩)
      · rfl
      · cases haddress.symm.trans h
  | ok address =>
    cases hcell : s.cell? address.position with
    | none =>
      rw [content_of_none haddress hcell]
      constructor
      · nofun
      · rintro (⟨-, _, h⟩ | ⟨b, c, -, hb, hc, -⟩)
        · cases h
        · cases haddress.symm.trans hb
          cases hcell.symm.trans hc
    | some c =>
      rw [content_of_some haddress hcell, contentOf_eq_error_iff]
      constructor
      · rintro ⟨next, hnext, h⟩
        exact .inr ⟨address, c, next, haddress, hcell, hnext, h⟩
      · rintro (⟨-, _, h⟩ | ⟨b, d, next, hb, hd, hnext, h⟩)
        · cases h
        · cases haddress.symm.trans hb
          cases hcell.symm.trans hd
          exact ⟨next, hnext, h⟩

/-- A fault of a formula is that of reading it. If it can be read, the fault is about operands,
or the limit was met on a longer chain, or at the end of a chain that is not longer there is a
reference that names no cell or a cell with a formula that cannot be read. -/
theorem valueOf_error_cases {limit : Nat} (h : s.valueOf limit formula = .error e) :
    read formula = .error e ∨ ∃ t, read formula = .ok t ∧
      (e.isOfOperands = true ∨
        (e = .chainTooLong ∧ ∃ as, Chain s.content t as ∧ limit < as.length) ∨
        ∃ as a, Chain s.content t (as ++ [a]) ∧ (as ++ [a]).length ≤ limit ∧
          ((e = .invalidReference a ∧ ∃ error, s.resolve a = .error error) ∨
            s.HoldsUnreadable a e)) := by
  rcases bind_eq_error_iff.mp h with h | ⟨t, ht, h⟩
  · exact .inl h
  refine .inr ⟨t, ht, ?_⟩
  rcases evaluate_error_cases h with h | h | ⟨as, a, has, hshort, h⟩
  · exact .inl h
  · exact .inr (.inl h)
  · have hlength : (as ++ [a]).length ≤ limit := by
      rw [List.length_append]
      exact hshort
    exact .inr (.inr ⟨as, a, has, hlength, content_eq_error_iff.mp h⟩)

end

/-- Splitting a text into tokens finds only faults of that stage, and reading any tokens only
faults of theirs. A formula that cannot be read has that fault on every sheet. If a formula can
be read and still has a fault of one of these stages, then at the end of a chain of references
within the limit is a cell with a formula that cannot be read, for the same fault. -/
theorem fault_by_stage :
    (∀ formula e, tokenize formula = .error e → e.stage = .tokenize) ∧
    (∀ tokens e, parse tokens = .error e → e.stage = .parse) ∧
    (∀ (s : Sheet) limit formula e, read formula = .error e →
        s.valueOf limit formula = .error e) ∧
    (∀ (s : Sheet) limit formula t e, read formula = .ok t →
        s.valueOf limit formula = .error e →
      e.stage = .tokenize ∨ e.stage = .parse →
      ∃ as a, Chain s.content t (as ++ [a]) ∧ (as ++ [a]).length ≤ limit ∧
        s.HoldsUnreadable a e) := by
  refine ⟨fun _ _ => stage_of_tokenize, fun _ _ => stage_of_parse,
    fun s limit formula e h => ?_, fun s limit formula t e ht h hstage => ?_⟩
  · exact bind_eq_error_iff.mpr (.inl h)
  have hne : e.stage ≠ .evaluate := by
    rcases hstage with hstage | hstage <;> exact hstage ▸ nofun
  rcases valueOf_error_cases h with h | ⟨u, hu, h⟩
  · cases ht.symm.trans h
  cases ht.symm.trans hu
  rcases h with h | ⟨rfl, -⟩ | ⟨as, a, has, hshort, ⟨rfl, -⟩ | h⟩
  · exact absurd (Fault.stage_of_isOfOperands h) hne
  · exact absurd rfl hne
  · exact absurd rfl hne
  · exact ⟨as, a, has, hshort, h⟩

/-- `A1` leads to `B1`, where a mark stands alone. -/
def markInB1 : Sheet :=
  ⟨"Sheet1", 1, 2, [(⟨0, 0⟩, .ofInput "=B1"), (⟨0, 1⟩, .ofInput "=$")]⟩

theorem valueOf_markInB1 : markInB1.valueOf 2 "A1" = .error (.unknownCharacter '$') := by
  have hmark : read "$" = .error (.unknownCharacter '$') :=
    bind_eq_error_iff.mpr (.inl (scan_of_next_error (by decide) rfl))
  have hA1 : markInB1.content "A1" = .ok (.formula (.reference "B1")) :=
    content_of_formulaBody? rfl rfl read_B1
  have hB1 : markInB1.content "B1" = .error (.unknownCharacter '$') :=
    (content_of_some rfl rfl).trans (contentOf_eq_error_iff.mpr ⟨"$", rfl, hmark⟩)
  unfold valueOf evaluate
  rw [read_A1]
  show follow (some markInB1.content) 2 "A1" = _
  rw [follow_succ, hA1]
  show follow (some markInB1.content) 1 "B1" = _
  rw [follow_succ, hB1]
  rfl

theorem fault_by_stage_markInB1 :
    markInB1.valueOf 2 "A1" = .error (.unknownCharacter '$') ∧
      ∃ as a, Chain markInB1.content (.reference "A1") (as ++ [a]) ∧ (as ++ [a]).length ≤ 2 ∧
        markInB1.HoldsUnreadable a (.unknownCharacter '$') :=
  ⟨valueOf_markInB1,
    fault_by_stage.2.2.2 markInB1 2 "A1" _ _ read_A1 valueOf_markInB1 (.inl rfl)⟩

end Sheet

end Spreadsheet
