import Spreadsheet.Proofs.Number.Plain
import Spreadsheet.Proofs.Sheet.Changes
import Spreadsheet.Proofs.Sheet.Reads

/-!
# Values pasted over formulas

Where a formula has a value, the value may be typed in its place. Whatever leads to this cell
stays as it was, and since a reference to a value uses up less of the limit than one to a
formula, at most chains that were too long become short enough.

- `ValuesPasted`: look-ups of cells some of which hold the values of their formulas.
- `evaluate_eq_of_ok`: a tree has one value, whatever the limit.
- `follow_of_valuesPasted`, `evaluate_of_valuesPasted`: what does not meet the
  limit stays the same.
- `content_store_self`, `content_store_of_ne`: what formulas see after something was typed.
- `valuesPasted_store`: a literal is typed over the formula of which it is the value.
- `valueOf_pasted_number`: so is the text of a number.
-/

namespace Spreadsheet

namespace Formula

/-- Each cell holds the same for both look-ups, except that the second may find the value of a
formula in place of the formula. -/
def ValuesPasted (look other : Cells) : Prop :=
  ∀ a, other a = look a ∨ ∃ t v limit, look a = .ok (.formula t) ∧
    t.evaluate (some look) limit = .ok v ∧ other a = .ok (.value v)

section

variable {look other : Cells} {t : Tree} {v : Value} {limit : Nat}

/-- A tree has the same value under every limit that it does not meet. -/
theorem evaluate_eq_of_ok (h : t.evaluate (some look) limit = .ok v) {limit' : Nat}
    (hsettled : t.evaluate (some look) limit' ≠ .error .chainTooLong) :
    t.evaluate (some look) limit' = .ok v := by
  rcases Nat.le_total limit limit' with hle | hle
  · have hne : t.evaluate (some look) limit ≠ .error .chainTooLong := by
      rw [h]
      nofun
    exact (t.evaluateWith_eq_of_ne (fun _ _ ha => follow_eq_of_le hle ha) hne).trans h
  · exact (t.evaluateWith_eq_of_ne (fun _ _ ha => follow_eq_of_le hle ha) hsettled).symm.trans h

/-- A reference that does not meet the limit is worth the same after formulas
gave way to their values. -/
theorem follow_of_valuesPasted (h : ValuesPasted look other) {a : String}
    (hsettled : follow (some look) limit a ≠ .error .chainTooLong) :
    follow (some other) limit a = follow (some look) limit a := by
  induction limit generalizing a with
  | zero => exact absurd (follow_zero look a) hsettled
  | succ limit ih =>
    rw [follow_succ] at hsettled
    rw [follow_succ, follow_succ]
    rcases h a with hsame | ⟨t, v, limit', hformula, hvalue, hpasted⟩
    · rw [hsame]
      refine bind_eq_of_ne hsettled (fun _ => rfl) fun content _ hsettled => ?_
      cases content with
      | absent => rfl
      | value v => rfl
      | formula t => exact t.evaluateWith_eq_of_ne (fun _ _ hb => ih hb) hsettled
    · rw [hformula] at hsettled ⊢
      rw [hpasted]
      exact (evaluate_eq_of_ok hvalue hsettled).symm

theorem evaluate_of_valuesPasted (h : ValuesPasted look other)
    (hsettled : t.evaluate (some look) limit ≠ .error .chainTooLong) :
    t.evaluate (some other) limit = t.evaluate (some look) limit :=
  t.evaluateWith_eq_of_ne (fun _ _ ha => follow_of_valuesPasted h ha) hsettled

end

end Formula

namespace Sheet

open Formula

section

variable {s : Sheet} {p : Position} {a body text : String} {address : Address} {limit : Nat}

/-- What was typed is seen where it was typed. -/
theorem content_store_self (hresolve : s.resolve a = .ok address)
    (htext : formulaBody? text = none) (hne : text ≠ "") :
    (s.store address.position (.ofInput text)).content a = .ok (.value (.ofInput text)) := by
  have hstored : (s.store address.position (.ofInput text)).resolve a = .ok address := hresolve
  have hcell : (s.store address.position (.ofInput text)).cell? address.position =
      some (.ofInput text) := by
    rw [cell?_store, if_pos rfl, Cell.isBlank_ofInput, if_neg (by simpa using hne)]
  rw [content_of_some hstored hcell]
  show contentOf text = _
  rw [contentOf, htext]

/-- Any other cell is as it was. -/
theorem content_store_of_ne (hresolve : s.resolve a = .ok address)
    (hp : p ≠ address.position) (c : Cell) : (s.store p c).content a = s.content a := by
  have hstored : (s.store p c).resolve a = .ok address := hresolve
  rw [content, content, lookUp_of_ok hstored, lookUp_of_ok hresolve, cell?_store, if_neg hp]

/-- A literal that is worth as much as a formula may be typed over it. -/
theorem valuesPasted_store (hbody : formulaBody? (s.inputAt p) = some body)
    (hvalue : s.valueOf limit body = .ok (.ofInput text)) (htext : formulaBody? text = none)
    (hne : text ≠ "") : ValuesPasted s.content (s.store p (.ofInput text)).content := by
  intro a
  cases hresolve : s.resolve a with
  | error e =>
    have hstored : (s.store p (.ofInput text)).resolve a = .error e := hresolve
    exact .inl ((content_of_error hstored).trans (content_of_error hresolve).symm)
  | ok address =>
    by_cases hp : p = address.position
    · subst hp
      obtain ⟨t, hread, hvalue⟩ := bind_eq_ok_iff.mp hvalue
      exact .inr ⟨t, _, limit, content_of_formulaBody? hresolve hbody hread, hvalue,
        content_store_self hresolve htext hne⟩
    · exact .inl (content_store_of_ne hresolve hp _)

/-- A formula that does not meet the limit is worth the same after a literal was typed over a
formula of which it is the value. -/
theorem valueOf_store (hbody : formulaBody? (s.inputAt p) = some body)
    (hvalue : s.valueOf limit body = .ok (.ofInput text)) (htext : formulaBody? text = none)
    (hne : text ≠ "") {limit' : Nat} {formula : String}
    (hsettled : s.valueOf limit' formula ≠ .error .chainTooLong) :
    (s.store p (.ofInput text)).valueOf limit' formula = s.valueOf limit' formula :=
  bind_eq_of_ne hsettled (fun _ => rfl) fun _ _ hsettled =>
    evaluate_of_valuesPasted (valuesPasted_store hbody hvalue htext hne) hsettled

end

/-- If the formula of a cell is worth a finite number other than the zero below zero, and the
text of this number reads back as it, then what the grid shows for the number may be typed over
the formula. The cell then holds and shows this text, nothing else of the sheet changes, and
every formula that did not meet the limit has the same value or the same fault as before. -/
theorem valueOf_pasted_number {s : Sheet} {p : Position} {body : String}
    {limit : Nat} {x : Float}
    (hinside : s.contains p = true) (hbody : formulaBody? (s.inputAt p) = some body)
    (hvalue : s.valueOf limit body = .ok (.number x)) (hfinite : x.isFinite = true)
    (hzero : x ≠ -0) (hreads : readNumber? (NumberStyle.plain.render x) = some x) :
    ∃ pasted, s.setInput p (Value.number x).display = .ok pasted ∧
      (pasted.name = s.name ∧ pasted.rows = s.rows ∧ pasted.cols = s.cols) ∧
      pasted.cell? p = some ⟨(Value.number x).display, (Value.number x).display⟩ ∧
      (∀ q, q ≠ p → pasted.cell? q = s.cell? q) ∧
      ∀ limit' formula, s.valueOf limit' formula ≠ .error .chainTooLong →
        pasted.valueOf limit' formula = s.valueOf limit' formula := by
  have hdisplay : (Value.number x).display = NumberStyle.plain.render x :=
    NumberStyle.render_grid hfinite hzero
  obtain ⟨htext, hworth⟩ := Value.ofInput_render hfinite hreads
  rw [← hdisplay] at htext hworth
  have hne : (Value.number x).display ≠ "" := by
    intro hempty
    rw [hempty] at hworth
    cases hworth
  rw [← hworth] at hvalue
  refine ⟨_, setInput_eq_ok_iff.mpr ⟨hinside, rfl⟩, ⟨rfl, rfl, rfl⟩, ?_, fun q hq => ?_,
    fun _ _ hsettled => valueOf_store hbody hvalue htext hne hsettled⟩
  · rw [cell?_store, if_pos rfl, Cell.isBlank_ofInput, if_neg (by simpa using hne)]
    rfl
  · rw [cell?_store, if_neg (Ne.symm hq)]

theorem valueOf_pasted_number_stepToB1 :
    stepToB1.contains ⟨0, 0⟩ = true ∧ formulaBody? (stepToB1.inputAt ⟨0, 0⟩) = some "B1" ∧
      stepToB1.valueOf 1 "B1" = .ok (.number 2) ∧ (2 : Float).isFinite = true ∧
      (2 : Float) ≠ -0 ∧
      readNumber? (NumberStyle.plain.render 2) = some 2 ∧
      ∃ pasted, stepToB1.setInput ⟨0, 0⟩ (Value.number 2).display = .ok pasted ∧
        (pasted.name = stepToB1.name ∧ pasted.rows = stepToB1.rows ∧
          pasted.cols = stepToB1.cols) ∧
        pasted.cell? ⟨0, 0⟩ = some ⟨(Value.number 2).display, (Value.number 2).display⟩ ∧
        (∀ q, q ≠ ⟨0, 0⟩ → pasted.cell? q = stepToB1.cell? q) ∧
        ∀ limit formula, stepToB1.valueOf limit formula ≠ .error .chainTooLong →
          pasted.valueOf limit formula = stepToB1.valueOf limit formula := by
  have hinside : stepToB1.contains ⟨0, 0⟩ = true := rfl
  have hbody : formulaBody? (stepToB1.inputAt ⟨0, 0⟩) = some "B1" := rfl
  have hfinite : (2 : Float).isFinite = true := by decide +kernel
  have hzero : (2 : Float) ≠ -0 := by decide +kernel
  have hreads : readNumber? (NumberStyle.plain.render 2) = some 2 := by decide +kernel
  have hvalue : stepToB1.valueOf 1 "B1" = .ok (.number 2) := by
    have htext : NumberStyle.plain.render 2 = "2" := by decide +kernel
    have hworth : Value.ofInput "2" = .number 2 :=
      htext ▸ (Value.ofInput_render hfinite hreads).2
    have hresolve : stepToB1.resolve "B1" = .ok ⟨⟨0, 1⟩, false, false⟩ := rfl
    have hcontent : stepToB1.content "B1" = .ok (.value (.ofInput "2")) :=
      content_of_some hresolve rfl
    refine bind_eq_ok_iff.mpr ⟨_, read_B1, ?_⟩
    show follow _ 1 "B1" = _
    rw [follow_succ, hcontent, hworth]
    rfl
  exact ⟨hinside, hbody, hvalue, hfinite, hzero, hreads,
    valueOf_pasted_number hinside hbody hvalue hfinite hzero hreads⟩

end Sheet

end Spreadsheet
