import Spreadsheet.Proofs.Address
import Spreadsheet.Proofs.Formula.SideBySide
import Spreadsheet.Proofs.Sheet.Changes
import Spreadsheet.Proofs.Sheet.Reads

/-!
# Spellings of formulas

A formula may spell its references with marks or without, in either case and with zeros in
front of the row, and the names of its functions in either case. None of this counts for
its value, however many formulas with spellings of their own lie between the formula and
the cells that it reads.

- `Tree.Respelled`, `RespelledInput`, `Sheet.Respelled`: trees, inputs and sheets that
  differ in spelling only.
- `SameButText`: two outcomes that are the same, apart from the text of an invalid reference.
- `resolve_of_sameSpelling`: spellings of one address are those of the same cell, or of none.
- `follow_respelled`: the outcomes of two spellings of a reference.
- `evaluate_respelled`: those of two spellings of a formula.
-/

namespace Spreadsheet

namespace Formula

/-- Two trees of the same shape, with the same operators, numbers and texts, and with other
spellings of the same references and functions. -/
abbrev Tree.Respelled : Tree → Tree → Prop := Tree.Alike Address.SameSpelling

/-- The same input, or two formulas that differ in spelling only. -/
inductive RespelledInput : String → String → Prop
  | same (input : String) : RespelledInput input input
  | formulas {input input' formula formula' : String} {t t' : Tree}
      (hbody : formulaBody? input = some formula) (hbody' : formulaBody? input' = some formula')
      (hread : read formula = .ok t) (hread' : read formula' = .ok t') (h : t.Respelled t') :
      RespelledInput input input'

/-- The two outcomes are the same, or both are faults of invalid references. -/
def SameButText {α : Type} (x y : Except Fault α) : Prop :=
  x = y ∨ ∃ a b, x = .error (.invalidReference a) ∧ y = .error (.invalidReference b)

theorem stepwise_sameButText : Stepwise SameButText where
  refl x := .inl rfl
  bind {_ _ x _ _ _} h hthen := by
    rcases h with rfl | ⟨a, b, rfl, rfl⟩
    · cases x with
      | error e => exact .inl rfl
      | ok v => exact hthen v
    · exact .inr ⟨a, b, rfl, rfl⟩

/-- What the two inputs are worth, if it is known what spellings of a reference are worth. -/
theorem RespelledInput.content {input input' : String} (h : RespelledInput input input')
    {reference other : String → Except Fault Value}
    (hnext : ∀ a b, Address.SameSpelling a b → SameButText (reference a) (other b)) :
    SameButText (contentOf input >>= Content.evaluateWith reference)
      (contentOf input' >>= Content.evaluateWith other) := by
  cases h with
  | same =>
    refine stepwise_sameButText.content ?_ (contentOf input)
    rintro a _ rfl
    exact hnext a a (.refl a)
  | formulas hbody hbody' hread hread' h =>
    rw [contentOf_eq_formula_iff.mpr ⟨_, hbody, hread⟩,
      contentOf_eq_formula_iff.mpr ⟨_, hbody', hread'⟩]
    exact h.evaluateWith stepwise_sameButText hnext

end Formula

namespace Sheet

open Formula

/-- Two sheets of the same dimensions, in each cell of which there is the same input or a
formula that differs in spelling only. -/
structure Respelled (s t : Sheet) : Prop where
  rows : s.rows = t.rows
  cols : s.cols = t.cols
  inputs : ∀ p, s.contains p = true → RespelledInput (s.inputAt p) (t.inputAt p)

section

variable {s t : Sheet} {a b : String}

/-- If one spelling of an address is that of a cell, then so is any other, and
the cell is the same. -/
theorem resolve_of_sameSpelling (hrows : s.rows = t.rows) (hcols : s.cols = t.cols)
    (h : Address.position? a = Address.position? b) {address : Address}
    (ha : s.resolve a = .ok address) :
    ∃ other, t.resolve b = .ok other ∧ other.position = address.position := by
  obtain ⟨hparse, hinside⟩ := resolve_eq_ok_iff.mp ha
  unfold Address.position? at h
  rw [hparse] at h
  cases hother : Address.parse b with
  | error e =>
    rw [hother] at h
    cases h
  | ok other =>
    rw [hother] at h
    have hposition : other.position = address.position := (Option.some.inj h).symm
    refine ⟨other, resolve_eq_ok_iff.mpr ⟨hother, ?_⟩, hposition⟩
    unfold contains at hinside ⊢
    rwa [hposition, ← hrows, ← hcols]

/-- Two spellings of a reference are worth the same on the two sheets, or both are invalid. -/
theorem follow_respelled (h : Respelled s t) (limit : Nat) (hab : Address.SameSpelling a b) :
    SameButText (follow (some s.content) limit a) (follow (some t.content) limit b) := by
  refine follow_stepwise Address.SameSpelling stepwise_sameButText ?_ limit a b hab
  intro reference other hnext a b hab
  rw [content_bind, content_bind]
  cases ha : s.resolve a with
  | error e =>
    cases hb : t.resolve b with
    | error e' => exact .inr ⟨a, b, rfl, rfl⟩
    | ok address =>
      obtain ⟨_, hok, -⟩ :=
        resolve_of_sameSpelling h.rows.symm h.cols.symm hab.position?_eq.symm hb
      cases ha.symm.trans hok
  | ok address =>
    obtain ⟨address', hb, hposition⟩ :=
      resolve_of_sameSpelling h.rows h.cols hab.position?_eq ha
    rw [hb]
    show SameButText (contentOf (s.inputAt address.position) >>= _)
      (contentOf (t.inputAt address'.position) >>= _)
    rw [hposition]
    exact (h.inputs _ (resolve_eq_ok_iff.mp ha).2).content hnext

end

/-- On sheets that differ in spelling only, two formulas that do so have the same value or the
same fault, of which only the text of an invalid reference may differ. -/
theorem evaluate_respelled {s s' : Sheet} (hsheets : Respelled s s') {t t' : Tree}
    (htrees : t.Respelled t') (limit : Nat) :
    let x := t.evaluate (some s.content) limit
    let y := t'.evaluate (some s'.content) limit
    x = y ∨ ∃ a b, x = .error (.invalidReference a) ∧ y = .error (.invalidReference b) :=
  htrees.evaluateWith stepwise_sameButText fun _ _ => follow_respelled hsheets limit

/-- A written address is read as a reference to it. -/
theorem read_of_written {a : String} {colMarked rowMarked : Bool} {letters digits : List Char}
    (h : Address.Written a.toList colMarked letters rowMarked digits) :
    read a = .ok (.reference a) := by
  refine read_reference ?_
  rw [h.text]
  exact .reference colMarked rowMarked h.letters_ne h.isAlpha h.digits_ne h.isDigit

/-- `A1` leads to `B1` in another spelling. -/
def stepToB1Marked : Sheet :=
  ⟨"Sheet1", 1, 3, [(⟨0, 0⟩, .ofInput "=$b$01"), (⟨0, 1⟩, .ofInput "2")]⟩

theorem respelled_stepToB1 : Respelled stepToB1 stepToB1Marked where
  rows := rfl
  cols := rfl
  inputs p hp := by
    have hplain : Address.Written "B1".toList false ['B'] false
        (List.replicate 0 '0' ++ ['1']) :=
      ⟨rfl, by decide, List.all_eq_true.mp rfl, by decide, List.all_eq_true.mp rfl⟩
    have hmarked :
        Address.Written "$b$01".toList true ['b'] true (List.replicate 1 '0' ++ ['1']) :=
      ⟨rfl, by decide, List.all_eq_true.mp rfl, by decide, List.all_eq_true.mp rfl⟩
    have hcell : p = ⟨0, 0⟩ ∨ p = ⟨0, 1⟩ ∨ p = ⟨0, 2⟩ := by
      obtain ⟨row, col⟩ := p
      have hrow : row < 1 := (contains_iff.mp hp).1
      have hcol : col < 3 := (contains_iff.mp hp).2
      simp only [Position.mk.injEq]
      omega
    rcases hcell with rfl | rfl | rfl
    · exact .formulas rfl rfl (read_of_written hplain) (read_of_written hmarked)
        (.reference (.parts hplain hmarked (by decide)))
    · exact .same "2"
    · exact .same ""

/-- The tree of `COUNT(A1)`, with the name of the function in some spelling. -/
def countOfA1 (name : String) : Tree := .call name [.reference "A1"]

theorem evaluate_respelled_stepToB1 :
    Respelled stepToB1 stepToB1Marked ∧ (countOfA1 "COUNT").Respelled (countOfA1 "count") ∧
      ((countOfA1 "COUNT").evaluate (some stepToB1.content) 2 =
          (countOfA1 "count").evaluate (some stepToB1Marked.content) 2 ∨
        ∃ a b, (countOfA1 "COUNT").evaluate (some stepToB1.content) 2 =
          .error (.invalidReference a) ∧
          (countOfA1 "count").evaluate (some stepToB1Marked.content) 2 =
            .error (.invalidReference b)) := by
  have htrees : (countOfA1 "COUNT").Respelled (countOfA1 "count") :=
    .call (by decide) (.cons (.reference (.refl "A1")) .nil)
  exact ⟨respelled_stepToB1, htrees, evaluate_respelled respelled_stepToB1 htrees 2⟩

end Sheet

end Spreadsheet
