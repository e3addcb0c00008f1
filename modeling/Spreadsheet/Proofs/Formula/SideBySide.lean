import Spreadsheet.Proofs.Formula.Chains
import Spreadsheet.Proofs.Text.Case

/-!
# Evaluations side by side

Two trees of the same shape are evaluated in the same steps, and so are the formulas to which
their references lead. What is known of the outcomes of corresponding references is then known
of the outcomes of the trees, if no step in which two outcomes are taken further can lose it.

- `Stepwise`: a relation between outcomes that no step loses.
- `Tree.Alike`: two trees of the same shape with corresponding references.
- `Tree.Alike.evaluateWith`: the outcomes of such trees.
- `follow_stepwise`: the outcomes of corresponding references, however far they are followed.
-/

namespace Spreadsheet

namespace Formula

/-- A relation between the outcomes of two evaluations that holds of equal outcomes, and that is
not lost when both evaluations go on alike. -/
structure Stepwise (R : ∀ {α : Type}, Except Fault α → Except Fault α → Prop) : Prop where
  refl : ∀ {α : Type} (x : Except Fault α), R x x
  bind : ∀ {α β : Type} {x y : Except Fault α} {f g : α → Except Fault β},
    R x y → (∀ a, R (f a) (g a)) → R (x >>= f) (y >>= g)

/-- Names that differ only in case are those of the same function, or of none. -/
theorem callFunction_congr {f g : String} (h : Text.SameLetters f.toList g.toList)
    (vs : List Value) : callFunction f vs = callFunction g vs := by
  unfold callFunction Catalogue.find?
  rw [Text.SameLetters.toUpper h, Text.SameLetters.toLower h]

namespace Tree

mutual

/-- Two trees of the same shape, with the same operators, numbers and texts, with names of
functions that differ at most in case, and with references that correspond. -/
inductive Alike (ρ : String → String → Prop) : Tree → Tree → Prop
  | number (x : Float) : Alike ρ (.number x) (.number x)
  | text (s : String) : Alike ρ (.text s) (.text s)
  | reference {a b : String} (h : ρ a b) : Alike ρ (.reference a) (.reference b)
  | operation (op : Operator) {l l' r r' : Tree} (hl : Alike ρ l l') (hr : Alike ρ r r') :
      Alike ρ (.operation op l r) (.operation op l' r')
  | call {f g : String} {ts us : List Tree} (hname : Text.SameLetters f.toList g.toList)
      (h : AllAlike ρ ts us) : Alike ρ (.call f ts) (.call g us)

/-- As many trees on both sides, each like the other in its place. -/
inductive AllAlike (ρ : String → String → Prop) : List Tree → List Tree → Prop
  | nil : AllAlike ρ [] []
  | cons {t u : Tree} {ts us : List Tree} (h : Alike ρ t u) (hs : AllAlike ρ ts us) :
      AllAlike ρ (t :: ts) (u :: us)

end

section

variable {ρ : String → String → Prop}

mutual

/-- A tree is like itself if its references correspond to themselves. -/
theorem Alike.refl (t : Tree) (h : ∀ a ∈ t.references, ρ a a) : Alike ρ t t := by
  cases t with
  | number x => exact .number x
  | text s => exact .text s
  | reference a => exact .reference (h a (List.mem_singleton_self a))
  | operation op l r =>
    exact .operation op (.refl l fun a ha => h a (List.mem_append_left _ ha))
      (.refl r fun a ha => h a (List.mem_append_right _ ha))
  | call f ts => exact .call rfl (.refl ts h)

theorem AllAlike.refl (ts : List Tree) (h : ∀ a ∈ referencesOfAll ts, ρ a a) :
    AllAlike ρ ts ts := by
  cases ts with
  | nil => exact .nil
  | cons t ts =>
    exact .cons (.refl t fun a ha => h a (List.mem_append_left _ ha))
      (.refl ts fun a ha => h a (List.mem_append_right _ ha))

end

variable {R : ∀ {α : Type}, Except Fault α → Except Fault α → Prop}
  {reference other : String → Except Fault Value}

mutual

/-- Trees that are alike have related outcomes if their references do. -/
theorem Alike.evaluateWith {t u : Tree} (htree : Alike ρ t u) (hR : Stepwise R)
    (h : ∀ a b, ρ a b → R (reference a) (other b)) :
    R (t.evaluateWith reference) (u.evaluateWith other) := by
  cases htree with
  | number x => exact hR.refl _
  | text s => exact hR.refl _
  | reference hab => exact h _ _ hab
  | operation op hl hr =>
    refine hR.bind (hl.evaluateWith hR h) fun x => ?_
    exact hR.bind (hr.evaluateWith hR h) fun y => hR.refl _
  | call hname hs =>
    refine hR.bind (hs.evaluateAllWith hR h) fun vs => ?_
    rw [callFunction_congr hname]
    exact hR.refl _

theorem AllAlike.evaluateAllWith {ts us : List Tree} (htrees : AllAlike ρ ts us)
    (hR : Stepwise R) (h : ∀ a b, ρ a b → R (reference a) (other b)) :
    R (evaluateAllWith reference ts) (evaluateAllWith other us) := by
  cases htrees with
  | nil => exact hR.refl _
  | cons ht hts =>
    refine hR.bind (ht.evaluateWith hR h) fun v => ?_
    exact hR.bind (hts.evaluateAllWith hR h) fun vs => hR.refl _

end

end

end Tree

/-- The outcomes of what a cell holds are related if those of the references in it are. -/
theorem Stepwise.content {R : ∀ {α : Type}, Except Fault α → Except Fault α → Prop}
    (hR : Stepwise R)
    {reference other : String → Except Fault Value}
    (h : ∀ a b, a = b → R (reference a) (other b)) (x : Except Fault Content) :
    R (x >>= Content.evaluateWith reference) (x >>= Content.evaluateWith other) := by
  refine hR.bind (hR.refl x) fun content => ?_
  cases content with
  | absent => exact hR.refl _
  | value v => exact hR.refl _
  | formula t => exact (Tree.Alike.refl t fun _ _ => rfl).evaluateWith hR h

/-- If corresponding references lead to contents with related outcomes, whenever the references
in these have related outcomes, then so do the references themselves under every limit. -/
theorem follow_stepwise (ρ : String → String → Prop)
    {R : ∀ {α : Type}, Except Fault α → Except Fault α → Prop} (hR : Stepwise R)
    {look other : Cells} (h : ∀ {reference reference' : String → Except Fault Value},
      (∀ a b, ρ a b → R (reference a) (reference' b)) → ∀ a b, ρ a b →
      R (look a >>= Content.evaluateWith reference)
        (other b >>= Content.evaluateWith reference'))
    (limit : Nat) :
    ∀ a b, ρ a b → R (follow (some look) limit a) (follow (some other) limit b) := by
  induction limit with
  | zero =>
    intro a b _
    exact hR.refl _
  | succ limit ih =>
    intro a b hab
    rw [follow_succ, follow_succ]
    exact h ih a b hab

end Formula

end Spreadsheet
