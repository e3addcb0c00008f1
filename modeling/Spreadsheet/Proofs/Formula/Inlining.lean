import Spreadsheet.Proofs.Formula.Chains

/-!
# References in place of what they stand for

A reference means what its cell holds: a formula may be written with the formula or the literal
of a cell in place of a reference to it, at any places and at any depth. Only the limit on
chains tells the two apart, since what stands in a tree itself uses up none of it.

- `Inlines`: a tree with what cells hold in place of some of its references.
- `evaluateWith_content`: a settled reference is worth what its cell holds,
  under the same limit.
- `Inlines.evaluateWith`, `InlinesAll.evaluateAllWith`: so is every tree, the
  first fault included.
- `evaluate_eq_of_inlines`: a settled tree keeps its value or its fault.
-/

namespace Spreadsheet

namespace Formula

mutual

/-- The second tree is the first with what cells hold in place of some of the
references to them. -/
inductive Inlines (look : Cells) : Tree → Tree → Prop
  | refl (t : Tree) : Inlines look t t
  | formula {a : String} {t : Tree} (h : look a = .ok (.formula t)) :
      Inlines look (.reference a) t
  | number {a : String} {x : Float} (h : look a = .ok (.value (.number x))) :
      Inlines look (.reference a) (.number x)
  | text {a s : String} (h : look a = .ok (.value (.text s))) :
      Inlines look (.reference a) (.text s)
  | operation (op : Operator) {l l' r r' : Tree} (hl : Inlines look l l')
      (hr : Inlines look r r') : Inlines look (.operation op l r) (.operation op l' r')
  | call (function : String) {ts us : List Tree} (h : InlinesAll look ts us) :
      Inlines look (.call function ts) (.call function us)

/-- Several trees, each with what cells hold in place of some references. -/
inductive InlinesAll (look : Cells) : List Tree → List Tree → Prop
  | nil : InlinesAll look [] []
  | cons {t u : Tree} {ts us : List Tree} (h : Inlines look t u) (hs : InlinesAll look ts us) :
      InlinesAll look (t :: ts) (u :: us)

end

section

variable {look : Cells} {limit : Nat}

/-- A reference that is settled is worth what its cell holds, although the limit
counts the reference. -/
theorem evaluateWith_content {a : String} {content : Content} (hlook : look a = .ok content)
    (hsettled : follow (some look) limit a ≠ .error .chainTooLong) :
    content.evaluateWith (follow (some look) limit) = follow (some look) limit a := by
  cases limit with
  | zero => exact absurd (follow_zero look a) hsettled
  | succ limit =>
    rw [follow_succ, hlook] at hsettled ⊢
    cases content with
    | absent => rfl
    | value v => rfl
    | formula t =>
      -- what is settled with one reference less is the same with it
      exact t.evaluateWith_eq_of_ne (fun b _ hb => follow_eq_of_le limit.le_succ hb) hsettled

mutual

theorem Inlines.evaluateWith {t u : Tree} (h : Inlines look t u)
    (hsettled : t.evaluateWith (follow (some look) limit) ≠ .error .chainTooLong) :
    u.evaluateWith (follow (some look) limit) = t.evaluateWith (follow (some look) limit) := by
  cases h with
  | refl => rfl
  | formula h => exact evaluateWith_content h hsettled
  | number h => exact evaluateWith_content h hsettled
  | text h => exact evaluateWith_content h hsettled
  | operation op hl hr =>
    refine bind_eq_of_ne hsettled hl.evaluateWith fun x _ hsettled => ?_
    exact bind_eq_of_ne hsettled hr.evaluateWith fun _ _ _ => rfl
  | call function h => exact bind_eq_of_ne hsettled h.evaluateAllWith fun _ _ _ => rfl

theorem InlinesAll.evaluateAllWith {ts us : List Tree} (h : InlinesAll look ts us)
    (hsettled : Tree.evaluateAllWith (follow (some look) limit) ts ≠ .error .chainTooLong) :
    Tree.evaluateAllWith (follow (some look) limit) us =
      Tree.evaluateAllWith (follow (some look) limit) ts := by
  cases h with
  | nil => rfl
  | cons h hs =>
    refine bind_eq_of_ne hsettled h.evaluateWith fun v _ hsettled => ?_
    exact bind_eq_of_ne hsettled hs.evaluateAllWith fun _ _ _ => rfl

end

end

/-- References are transparent: with what cells hold in place of any of them, a tree keeps its
value or its fault, unless that fault is the one of the limit. -/
theorem evaluate_eq_of_inlines {look : Cells} {t u : Tree} (h : Inlines look t u) (limit : Nat)
    (hsettled : t.evaluate (some look) limit ≠ .error .chainTooLong) :
    u.evaluate (some look) limit = t.evaluate (some look) limit :=
  h.evaluateWith hsettled

theorem evaluate_throughB1_inlined :
    Inlines throughB1 (.operation .add (.reference "A1") (.reference "A1"))
        (.operation .add (.reference "B1") (.reference "A1")) ∧
      (Tree.operation .add (.reference "A1") (.reference "A1")).evaluate (some throughB1) 2 ≠
        .error .chainTooLong ∧
      (Tree.operation .add (.reference "B1") (.reference "A1")).evaluate (some throughB1) 2 =
        (Tree.operation .add (.reference "A1") (.reference "A1")).evaluate
          (some throughB1) 2 := by
  have h : Inlines throughB1 (.operation .add (.reference "A1") (.reference "A1"))
      (.operation .add (.reference "B1") (.reference "A1")) :=
    .operation .add (.formula rfl) (.refl _)
  have hsettled : (Tree.operation .add (.reference "A1") (.reference "A1")).evaluate
      (some throughB1) 2 ≠ .error .chainTooLong := nofun
  exact ⟨h, hsettled, evaluate_eq_of_inlines h 2 hsettled⟩

end Formula

end Spreadsheet
