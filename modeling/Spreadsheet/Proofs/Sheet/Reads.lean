import Spreadsheet.Proofs.Formula.Spacing
import Spreadsheet.Proofs.Sheet.Inputs

/-!
# What a formula reads

A formula depends on a sheet only through its dimensions and through what was typed into the
cells that the formula leads to: those of its references, those of the references in the
formulas typed there, and so on.

- `Sheet.Reads`: the cells that a formula leads to.
- `contentOf_bind_congr`, `Sheet.follow_eq_of_reads`: one step along a
  reference, and all of them.
- `read_trim`, `Sheet.displayOf_equals`: an input with `=` in front shows the
  value of what follows.
- `Sheet.eq_of_reads`: two sheets that agree on the cells read give a formula the same value.
-/

namespace Spreadsheet

namespace Formula

/-- What is typed into a cell is worth the same if the references in it are. -/
theorem contentOf_bind_congr {reference other : String → Except Fault Value} {input : String}
    (h : ∀ next t, formulaBody? input = some next → read next = .ok t →
      ∀ a ∈ t.references, reference a = other a) :
    contentOf input >>= Content.evaluateWith reference =
      contentOf input >>= Content.evaluateWith other := by
  unfold contentOf
  cases hnext : formulaBody? input with
  | none => rfl
  | some next =>
    dsimp only
    cases hread : read next with
    | error e => rfl
    | ok t => exact t.evaluateWith_congr (h next t hnext hread)

/-- Blank ends of a formula do not count. -/
theorem read_trim (formula : String) :
    read (.ofList (Text.trim formula.toList)) = read formula := by
  unfold read
  rw [tokenize_trim]

theorem formulaBody?_equals (formula : String) :
    formulaBody? ("=" ++ formula) = some (.ofList (Text.trim formula.toList)) := by
  unfold formulaBody?
  rw [String.toList_append]
  rfl

end Formula

namespace Sheet

open Formula

/-- The positions to which a formula leads on a sheet: those of its references, and those to
which the formulas typed there lead. -/
inductive Reads (s : Sheet) : String → Position → Prop
  | reference {formula a : String} {t : Tree} {address : Address} (hread : read formula = .ok t)
      (ha : a ∈ t.references) (haddress : s.resolve a = .ok address) :
      Reads s formula address.position
  | through {formula next : String} {p q : Position} (hp : Reads s formula p)
      (hnext : formulaBody? (s.inputAt p) = some next) (hq : Reads s next q) : Reads s formula q

section

variable {s t : Sheet} (hrows : s.rows = t.rows) (hcols : s.cols = t.cols)

include hrows hcols

/-- References of a formula are worth the same on both sheets, however far they are followed. -/
theorem follow_eq_of_reads {formula : String} {u : Tree} (hread : read formula = .ok u)
    (hagree : ∀ p, s.Reads formula p → s.inputAt p = t.inputAt p) (limit : Nat) :
    ∀ a ∈ u.references, follow (some s.content) limit a = follow (some t.content) limit a := by
  induction limit generalizing formula u with
  | zero =>
    intro a ha
    rfl
  | succ limit ih =>
    intro a ha
    rw [follow_succ, follow_succ, content_bind, content_bind, ← resolve_congr hrows hcols]
    cases haddress : s.resolve a with
    | error e => rfl
    | ok address =>
      have hp : s.Reads formula address.position := .reference hread ha haddress
      show contentOf (s.inputAt address.position) >>= _ =
        contentOf (t.inputAt address.position) >>= _
      rw [← hagree _ hp]
      -- what the formula typed there reads is read by this one too
      refine contentOf_bind_congr fun next v hnext hv => ?_
      exact ih hv fun q hq => hagree q (.through hp hnext hq)

theorem valueOf_eq_of_reads {formula : String}
    (hagree : ∀ p, s.Reads formula p → s.inputAt p = t.inputAt p) (limit : Nat) :
    s.valueOf limit formula = t.valueOf limit formula := by
  unfold valueOf evaluate
  cases hread : read formula with
  | error e => rfl
  | ok u => exact u.evaluateWith_congr (follow_eq_of_reads hrows hcols hread hagree limit)

end

/-- An input with `=` in front shows the value of what follows. -/
theorem displayOf_equals (s : Sheet) (limit : Nat) (formula : String) :
    s.displayOf limit ("=" ++ formula) = render (s.valueOf limit formula) := by
  rw [displayOf_formula s limit (formulaBody?_equals formula)]
  unfold valueOf evaluate
  rw [read_trim]

/-- Two sheets of the same dimensions give a formula the same value or the same fault if
the same was typed into the cells that it leads to. What cells show, their names and all
other cells do not matter. -/
theorem eq_of_reads {s t : Sheet} (hrows : s.rows = t.rows) (hcols : s.cols = t.cols)
    (formula : String) (hagree : ∀ p, s.Reads formula p → s.inputAt p = t.inputAt p)
    (limit : Nat) :
    s.valueOf limit formula = t.valueOf limit formula ∧
      s.displayOf limit ("=" ++ formula) = t.displayOf limit ("=" ++ formula) := by
  have hvalue : s.valueOf limit formula = t.valueOf limit formula :=
    valueOf_eq_of_reads hrows hcols hagree limit
  refine ⟨hvalue, ?_⟩
  rw [displayOf_equals, displayOf_equals, hvalue]

/-- `A1` leads to `B1`, which holds a number; `C1` is empty. -/
def stepToB1 : Sheet :=
  ⟨"Sheet1", 1, 3, [(⟨0, 0⟩, .ofInput "=B1"), (⟨0, 1⟩, .ofInput "2")]⟩

/-- The same with another name, with values that show, and with a formula in `C1`. -/
def stepToB1Shown : Sheet :=
  ⟨"Sheet2", 1, 3, [(⟨0, 0⟩, ⟨"=B1", "2"⟩), (⟨0, 1⟩, ⟨"2", "two"⟩), (⟨0, 2⟩, .ofInput "=A1")]⟩

theorem read_A1 : read "A1" = .ok (.reference "A1") :=
  read_reference (LexemeClass.reference_of_letter 'A' '1' rfl rfl)

theorem read_B1 : read "B1" = .ok (.reference "B1") :=
  read_reference (LexemeClass.reference_of_letter 'B' '1' rfl rfl)

theorem reads_stepToB1 {formula : String} {p : Position} (h : stepToB1.Reads formula p) :
    (formula = "A1" → p = ⟨0, 0⟩ ∨ p = ⟨0, 1⟩) ∧ (formula = "B1" → p = ⟨0, 1⟩) := by
  have hresolveA1 : stepToB1.resolve "A1" = .ok ⟨⟨0, 0⟩, false, false⟩ := rfl
  have hresolveB1 : stepToB1.resolve "B1" = .ok ⟨⟨0, 1⟩, false, false⟩ := rfl
  have hinputA1 : formulaBody? (stepToB1.inputAt ⟨0, 0⟩) = some "B1" := rfl
  have hinputB1 : formulaBody? (stepToB1.inputAt ⟨0, 1⟩) = none := rfl
  induction h with
  | reference hread ha haddress =>
    constructor
    · rintro rfl
      cases read_A1.symm.trans hread
      obtain rfl := List.mem_singleton.mp ha
      cases hresolveA1.symm.trans haddress
      exact .inl rfl
    · rintro rfl
      cases read_B1.symm.trans hread
      obtain rfl := List.mem_singleton.mp ha
      cases hresolveB1.symm.trans haddress
      rfl
  | through hp hnext hq ihp ihq =>
    constructor
    · rintro rfl
      rcases ihp.1 rfl with rfl | rfl
      · cases hinputA1.symm.trans hnext
        exact .inr (ihq.2 rfl)
      · cases hinputB1.symm.trans hnext
    · rintro rfl
      obtain rfl := ihp.2 rfl
      cases hinputB1.symm.trans hnext

theorem eq_of_reads_stepToB1 :
    (∀ p, stepToB1.Reads "A1" p → stepToB1.inputAt p = stepToB1Shown.inputAt p) ∧
      stepToB1.valueOf 2 "A1" = stepToB1Shown.valueOf 2 "A1" := by
  have hagree : ∀ p, stepToB1.Reads "A1" p → stepToB1.inputAt p = stepToB1Shown.inputAt p := by
    intro p hp
    rcases (reads_stepToB1 hp).1 rfl with rfl | rfl <;> rfl
  exact ⟨hagree, (eq_of_reads (s := stepToB1) (t := stepToB1Shown) rfl rfl "A1" hagree 2).1⟩

end Sheet

end Spreadsheet
