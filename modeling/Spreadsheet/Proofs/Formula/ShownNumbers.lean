import Spreadsheet.Formula.Evaluation
import Spreadsheet.Proofs.Formula.Spacing
import Spreadsheet.Proofs.Number.ReadingBack

/-!
# Shown numbers as inputs and as formulas

What the grid shows for a number is a number again wherever it is typed: as a literal, and
without a sign as a formula. Then it is a single token, as many digits as it may have. Zero is
the only number with two texts of its own, and the grid shows both as `0`.

- `Value.Same`: the same value, numbers being compared as numbers.
- `NumberStyle.IsDecimal.contains`: digits with a point are a lexeme.
- `Formula.evaluate_render_grid`: the formula with the text of a number is worth the number.
- `Value.shown_read_back`: what is shown for a value is worth the value,
  whichever way it is read.
-/

namespace Spreadsheet

/-- The same value, numbers being compared as numbers. -/
inductive Value.Same : Value → Value → Prop
  | empty : Same .empty .empty
  | number {x y : Float} (h : (x == y) = true) : Same (.number x) (.number y)
  | text (s : String) : Same (.text s) (.text s)

/-- Digits with at most one point among them are a lexeme. -/
theorem NumberStyle.IsDecimal.contains {cs : List Char} (h : IsDecimal cs) :
    Formula.LexemeClass.number.Contains cs := by
  cases h with
  | integer hne hds => exact .digits hne hds
  | point _ hds hes => exact .pointed hds hes

namespace Formula

/-- The text of a number is one token, and as a formula it is worth the number. -/
theorem evaluate_render_grid {x : Float} (hfinite : x.isFinite = true) (hnonneg : 0 ≤ x) :
    tokenize (NumberStyle.grid.render x) =
      .ok [⟨.number, NumberStyle.grid.render x⟩, Token.endMark] ∧
      ∀ cells limit, evaluate cells limit (NumberStyle.grid.render x) =
        .ok (.number (if x == 0 then 0 else x)) := by
  have hlexical :=
    Token.lexical_number (NumberStyle.isDecimal_render_grid hfinite hnonneg).contains
  have hspelling (literal : String) : Token.spelling ⟨.number, literal⟩ = literal.toList := rfl
  have hread := read_leaf (.number (readNumber?_render_grid hfinite)) hlexical (hspelling _)
  refine ⟨hread.1, fun cells limit => ?_⟩
  unfold evaluate
  rw [hread.2]
  show Tree.evaluate cells limit (.number _) = _
  unfold Tree.evaluate Tree.evaluateWith
  rfl

end Formula

namespace Value

/-- A number is equal to what is read from its text, also if it is zero. -/
theorem same_number {x : Float} (hfinite : x.isFinite = true) :
    (Value.number (if x == 0 then 0 else x)).Same (.number x) := by
  refine .number ?_
  split
  · next hzero => rcases eq_zero_or_negZero hzero with rfl | rfl <;> rfl
  · exact beq_self_of_isFinite hfinite

/-- A literal is worth nothing, a finite number or the text that was typed. -/
theorem ofInput_cases (input : String) : ofInput input = .empty ∨ ofInput input = .text input ∨
    ∃ x : Float, x.isFinite = true ∧ ofInput input = .number x := by
  unfold ofInput
  dsimp only
  split
  · exact .inl rfl
  · split
    · next x _ =>
      split
      · next hfinite => exact .inr (.inr ⟨x, hfinite, rfl⟩)
      · exact .inr (.inl rfl)
    · exact .inr (.inl rfl)

/-- What is shown is read back: the value of a literal from its text, a finite number from its
text in the grid, and a finite number that is not below zero from the formula with that text,
which is a single token. -/
theorem shown_read_back :
    (∀ input, (ofInput (ofInput input).display).Same (ofInput input)) ∧
    ∀ x : Float, x.isFinite = true →
      ofInput (NumberStyle.grid.render x) = .number (if x == 0 then 0 else x) ∧
      (0 ≤ x →
        Formula.tokenize (NumberStyle.grid.render x) =
          .ok [⟨.number, NumberStyle.grid.render x⟩, Formula.Token.endMark] ∧
        ∀ cells limit, Formula.evaluate cells limit (NumberStyle.grid.render x) =
          .ok (.number (if x == 0 then 0 else x))) := by
  refine ⟨fun input => ?_, fun x hfinite =>
    ⟨ofInput_render_grid hfinite, Formula.evaluate_render_grid hfinite⟩⟩
  rcases ofInput_cases input with h | h | ⟨x, hfinite, h⟩
  · rw [h]
    exact .empty
  · rw [h]
    show (ofInput input).Same (.text input)
    rw [h]
    exact .text input
  · rw [h]
    show (ofInput (NumberStyle.grid.render x)).Same (.number x)
    rw [ofInput_render_grid hfinite]
    exact same_number hfinite

/-- A quarter is read back from the text in the grid, and from the formula with this text. -/
theorem shown_read_back_quarter :
    (0.25 : Float).isFinite = true ∧ (0 : Float) ≤ 0.25 ∧
        NumberStyle.grid.render 0.25 = "0.25" ∧
      ofInput "0.25" = .number 0.25 ∧ Formula.evaluate none 64 "0.25" = .ok (.number 0.25) := by
  have htext : NumberStyle.grid.render 0.25 = "0.25" := by decide +kernel
  have hfinite : (0.25 : Float).isFinite = true := by decide
  have hvalue := (shown_read_back.2 0.25 hfinite).1
  have hformula := (shown_read_back.2 0.25 hfinite).2
  have hnumber : (if (0.25 : Float) == 0 then 0 else 0.25) = (0.25 : Float) :=
    if_neg (by decide)
  rw [htext, hnumber] at hvalue hformula
  exact ⟨hfinite, by decide, htext, hvalue, (hformula (by decide)).2 none 64⟩

end Value

end Spreadsheet
