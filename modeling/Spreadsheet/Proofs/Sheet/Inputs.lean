import Spreadsheet.Proofs.Formula.Chains
import Spreadsheet.Sheet.Content

/-!
# What was typed

Formulas read nothing of a sheet but its dimensions and what was typed into its cells. A cell
that only shows something counts as an empty one.

- `Sheet.inputAt`: what was typed at a position.
- `contentOf`, `Sheet.content_bind`: what a formula sees of a cell is what was typed there.
- `Sheet.SameInputs`: two sheets that differ at most in their names and in what they show.
- `Sheet.SameInputs.displayOf`: such sheets give every input the same value.
-/

namespace Spreadsheet

namespace Formula

/-- Look-ups whose contents are worth the same give every reference the same value. -/
theorem follow_congr {look other : Cells}
    (h : ∀ reference a, look a >>= Content.evaluateWith reference =
      other a >>= Content.evaluateWith reference) (limit : Nat) :
    follow (some look) limit = follow (some other) limit := by
  induction limit with
  | zero => rfl
  | succ limit ih =>
    funext a
    rw [follow_succ, follow_succ, ih]
    exact h _ a

/-- What a formula sees of a cell with an input. -/
def contentOf (input : String) : Except Fault Content :=
  match formulaBody? input with
  | some formula => (read formula).map .formula
  | none => .ok (.value (.ofInput input))

theorem contentOf_eq_formula_iff {input : String} {t : Tree} :
    contentOf input = .ok (.formula t) ↔
      ∃ formula, formulaBody? input = some formula ∧ read formula = .ok t := by
  unfold contentOf
  cases formulaBody? input with
  | none => exact ⟨nofun, nofun⟩
  | some formula =>
    constructor
    · intro h
      obtain ⟨u, hu, hformula⟩ := map_eq_ok_iff.mp h
      cases hformula
      exact ⟨formula, rfl, hu⟩
    · rintro ⟨_, hformula, ht⟩
      cases hformula
      exact map_eq_ok_iff.mpr ⟨t, ht, rfl⟩

/-- An empty input is worth the same as no input. -/
theorem contentOf_empty : contentOf "" = .ok (.value .empty) := by
  rfl

end Formula

namespace Sheet

open Formula

/-- What was typed at a position. -/
def inputAt (s : Sheet) (p : Position) : String := ((s.cell? p).map Cell.input).getD ""

theorem inputAt_of_cell? {s : Sheet} {p : Position} {c : Cell} (h : s.cell? p = some c) :
    s.inputAt p = c.input := by
  rw [inputAt, h]
  rfl

theorem inputAt_of_none {s : Sheet} {p : Position} (h : s.cell? p = none) :
    s.inputAt p = "" := by
  rw [inputAt, h]
  rfl

section

variable {s : Sheet} {a : String} {address : Address}

theorem content_of_error {e : Error} (h : s.resolve a = .error e) :
    s.content a = .error (.invalidReference a) := by
  rw [content, lookUp, h]
  rfl

theorem lookUp_of_ok (h : s.resolve a = .ok address) :
    s.lookUp a = .ok (s.cell? address.position) := by
  rw [lookUp, h]
  rfl

theorem content_of_none (h : s.resolve a = .ok address)
    (hcell : s.cell? address.position = none) : s.content a = .ok .absent := by
  rw [content, lookUp_of_ok h, hcell]

theorem content_of_some {c : Cell} (h : s.resolve a = .ok address)
    (hcell : s.cell? address.position = some c) : s.content a = contentOf c.input := by
  rw [content, lookUp_of_ok h, hcell]
  rfl

/-- A look at a cell with a formula that can be read sees its tree. -/
theorem content_of_formulaBody? {body : String} {t : Tree}
    (hresolve : s.resolve a = .ok address)
    (hbody : formulaBody? (s.inputAt address.position) = some body)
    (hread : read body = .ok t) : s.content a = .ok (.formula t) := by
  cases hcell : s.cell? address.position with
  | none =>
    rw [inputAt_of_none hcell] at hbody
    cases hbody
  | some c =>
    rw [inputAt_of_cell? hcell] at hbody
    rw [content_of_some hresolve hcell]
    exact contentOf_eq_formula_iff.mpr ⟨body, hbody, hread⟩

end

/-- A look at an address sees what was typed there, if it is the address of a
cell of the grid. -/
theorem content_bind (s : Sheet) (reference : String → Except Fault Value) (a : String) :
    s.content a >>= Content.evaluateWith reference =
      match s.resolve a with
      | .error _ => .error (.invalidReference a)
      | .ok address =>
        contentOf (s.inputAt address.position) >>= Content.evaluateWith reference := by
  cases hresolve : s.resolve a with
  | error e =>
    rw [content_of_error hresolve]
    rfl
  | ok address =>
    cases hcell : s.cell? address.position with
    | none =>
      -- a cell that is not kept is worth as much as one with an empty input
      rw [content_of_none hresolve hcell]
      show Except.ok Value.empty = contentOf (s.inputAt address.position) >>= _
      rw [inputAt_of_none hcell, contentOf_empty]
      rfl
    | some c =>
      rw [content_of_some hresolve hcell]
      show _ = contentOf (s.inputAt address.position) >>= _
      rw [inputAt_of_cell? hcell]

/-! ## Sheets with the same inputs -/

/-- Two sheets of the same dimensions into which the same was typed. -/
structure SameInputs (s t : Sheet) : Prop where
  rows : s.rows = t.rows
  cols : s.cols = t.cols
  inputs : ∀ p, s.inputAt p = t.inputAt p

/-- Addresses are those of the same cells on sheets of the same dimensions. -/
theorem resolve_congr {s t : Sheet} (hrows : s.rows = t.rows) (hcols : s.cols = t.cols)
    (a : String) : s.resolve a = t.resolve a := by
  obtain ⟨_, rows, cols, _⟩ := s
  obtain ⟨_, _, _, _⟩ := t
  cases hrows
  cases hcols
  rfl

namespace SameInputs

variable {s t : Sheet} (h : SameInputs s t)

include h

theorem follow (limit : Nat) :
    follow (some s.content) limit = Formula.follow (some t.content) limit := by
  refine follow_congr (fun reference a => ?_) limit
  rw [content_bind, content_bind, resolve_congr h.rows h.cols]
  cases t.resolve a with
  | error e => rfl
  | ok address =>
    show contentOf (s.inputAt address.position) >>= _ = _
    rw [h.inputs]

theorem valueOf (limit : Nat) (formula : String) :
    s.valueOf limit formula = t.valueOf limit formula := by
  unfold Sheet.valueOf evaluate Tree.evaluate
  rw [h.follow]

/-- What an input shows does not depend on what the cells of a sheet show. -/
theorem displayOf (limit : Nat) (input : String) :
    s.displayOf limit input = t.displayOf limit input := by
  cases hbody : formulaBody? input with
  | none => rw [displayOf_literal _ _ hbody, displayOf_literal _ _ hbody]
  | some formula => rw [displayOf_formula _ _ hbody, displayOf_formula _ _ hbody, h.valueOf]

end SameInputs

end Sheet

end Spreadsheet
