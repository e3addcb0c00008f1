import Spreadsheet.Proofs.Formula.Totals
import Spreadsheet.Proofs.Sheet.Reads

/-!
# Inputs in quotes

A function reads the same number from a reference to a literal as from the text of that
literal, or it refuses both alike. It does not matter whether a look at the cell has
already found the number in the text: if it has, the function takes that number, and else
it reads the text once more.

- `Value.addend?_ofInput`: a literal and its text add the same to a sum.
- `Sheet.Quotes`: an argument, and the same argument or the text to which it refers.
- `Sheet.Quotes.addend`, `Sheet.addends_of_quotes`: such arguments have the same faults
  and add the same to a sum.
- `Sheet.evaluate_call_of_quotes`: so calls with such arguments are worth the same.
-/

namespace Spreadsheet

/-- What is not blank adds the same to a sum as a literal and as a text. -/
theorem Value.addend?_ofInput {input : String} (h : Text.trim input.toList ≠ []) :
    (Value.ofInput input).addend? = (Value.text input).addend? := by
  have hblank : (Text.trim input.toList).isEmpty = false := by simpa using h
  unfold Value.ofInput
  dsimp only
  rw [hblank, if_neg Bool.false_ne_true]
  split
  · next x hx =>
    -- a number that is not finite is kept as its text, and read again
    split
    · exact hx.symm
    · rfl
  · rfl

namespace Sheet

open Formula Formula.Tree

/-- The second tree is the first one, or it is the text of a literal that is not blank and to
which the first one refers. -/
inductive Quotes (s : Sheet) : Tree → Tree → Prop
  | same (t : Tree) : Quotes s t t
  | input {a : String} {address : Address} (ha : s.resolve a = .ok address)
      (hliteral : formulaBody? (s.inputAt address.position) = none)
      (hblank : Text.trim (s.inputAt address.position).toList ≠ []) :
      Quotes s (.reference a) (.text (s.inputAt address.position))

variable {s : Sheet} {limit : Nat}

/-- What the reference is worth and the text add the same to a sum. -/
theorem Quotes.addend {t u : Tree} (h : s.Quotes t u) :
    (t.evaluateWith (follow (some s.content) (limit + 1))).map Value.addend? =
      (u.evaluateWith (follow (some s.content) (limit + 1))).map Value.addend? := by
  cases h with
  | same t => rfl
  | @input a address ha hliteral hblank =>
    show (follow (some s.content) (limit + 1) a).map _ = _
    rw [follow_succ, content_bind, ha]
    show (contentOf (s.inputAt address.position) >>= _).map _ = _
    rw [contentOf, hliteral]
    exact congrArg Except.ok (Value.addend?_ofInput hblank)

/-- What trees add to a sum, and the first fault among them. -/
theorem addends_cons (reference : String → Except Fault Value) (t : Tree) (ts : List Tree) :
    (evaluateAllWith reference (t :: ts)).map (List.map Value.addend?) = (do
      let x ← (t.evaluateWith reference).map Value.addend?
      let xs ← (evaluateAllWith reference ts).map (List.map Value.addend?)
      return x :: xs) := by
  rw [evaluateAllWith]
  cases t.evaluateWith reference with
  | error e => rfl
  | ok v => cases evaluateAllWith reference ts <;> rfl

theorem addends_of_quotes {ts us : List Tree} (h : List.Forall₂ s.Quotes ts us) :
    (evaluateAllWith (follow (some s.content) (limit + 1)) ts).map (List.map Value.addend?) =
      (evaluateAllWith (follow (some s.content) (limit + 1)) us).map
        (List.map Value.addend?) := by
  induction h with
  | nil => rfl
  | cons ht _ ih => rw [addends_cons, addends_cons, ht.addend, ih]

/-- If any references to literals that are not blank are replaced by the texts of these
literals, in quotes, the call of a function keeps its value or its fault. The texts may
be any, numbers or not. -/
theorem evaluate_call_of_quotes {args quoted : List Tree}
    (h : List.Forall₂ s.Quotes args quoted) (function : String) (limit : Nat) :
    (Tree.call function quoted).evaluate (some s.content) (limit + 1) =
      (Tree.call function args).evaluate (some s.content) (limit + 1) :=
  bind_eq_of_map_eq (addends_of_quotes h).symm fun _ _ => callFunction_eq_of_addends function

theorem evaluate_call_of_quotes_stepToB1 :
    List.Forall₂ stepToB1.Quotes [.reference "B1", .reference "A1", .reference "$B$1"]
        [.text "2", .reference "A1", .text "2"] ∧
      (Tree.call "SUM" [.text "2", .reference "A1", .text "2"]).evaluate
        (some stepToB1.content) 2 =
        (Tree.call "SUM" [.reference "B1", .reference "A1", .reference "$B$1"]).evaluate
          (some stepToB1.content) 2 := by
  have hresolve : stepToB1.resolve "B1" = .ok ⟨⟨0, 1⟩, false, false⟩ := rfl
  have hmarked : stepToB1.resolve "$B$1" = .ok ⟨⟨0, 1⟩, true, true⟩ := rfl
  have hblank : Text.trim (stepToB1.inputAt ⟨0, 1⟩).toList ≠ [] := by decide
  have hquotes :
      List.Forall₂ stepToB1.Quotes [.reference "B1", .reference "A1", .reference "$B$1"]
        [.text "2", .reference "A1", .text "2"] :=
    .cons (.input hresolve rfl hblank)
      (.cons (.same _) (.cons (.input hmarked rfl hblank) .nil))
  exact ⟨hquotes, evaluate_call_of_quotes hquotes "SUM" 1⟩

end Sheet

end Spreadsheet
