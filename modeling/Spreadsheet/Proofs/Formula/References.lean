import Spreadsheet.Formula.Evaluation
import Spreadsheet.Proofs.Formula.InOrder

/-!
# References of a tree

A tree is evaluated through the values of its references, so what is known of
these is known of the tree.

- `Fault.isOfOperands`: the faults that operators and functions find in their operands.
- `Operator.isOfOperands_of_operate`, `isOfOperands_of_callFunction`: they find no others.
- `Catalogue.find?_builtIn`: the two functions that formulas may call.
- `Origin`, `Tree.origin_of_evaluateWith`: where the result of a tree comes about.
- `Tree.ok_of_evaluateWith`: a tree has a value only if each of its references has one.
- `Tree.error_of_evaluateWith`: any other fault of a tree is the fault of one of its references.
- `Tree.evaluateWith_eq_of_ne`: if references change only where they had one certain fault, a
  tree without this fault keeps its value or its own fault.
- `Tree.evaluateWith_congr`: a tree depends on nothing but its references.
-/

namespace Spreadsheet

namespace Formula

/-! ## Faults of operators and functions -/

/-- Is the fault one that an operator or a function finds in its operands? -/
def Fault.isOfOperands : Fault → Bool
  | .invalidOperation | .divisionByZero | .unsupportedOperator _ | .unknownFunction _
  | .invalidArgument _ => true
  | _ => false

theorem Operator.isOfOperands_of_operate {op : Operator} {x y : Value} {e : Fault}
    (h : op.operate x y = .error e) : e.isOfOperands = true := by
  unfold Operator.operate at h
  split at h
  · split at h
    · cases h
      rfl
    · split at h
      · cases h
      · cases h
        rfl
  · cases h
    rfl

theorem isOfOperands_of_readArgument {function : String} {v : Value} {e : Fault}
    (h : readArgument function v = .error e) : e.isOfOperands = true := by
  unfold readArgument at h
  split at h
  · cases h
  · cases h
  · split at h
    · cases h
    · cases h
      rfl

theorem isOfOperands_of_total {function : String} {vs : List Value} {e : Fault}
    (h : total function vs = .error e) : e.isOfOperands = true := by
  unfold total at h
  -- the induction is on the arguments, for whatever has been added before them
  generalize (0 : Float) = x at h
  induction vs generalizing x with
  | nil => cases h
  | cons v vs ih =>
    rw [List.foldlM_cons] at h
    rcases bind_eq_error_iff.mp h with h | ⟨y, -, h⟩
    · exact isOfOperands_of_readArgument (map_eq_error_iff.mp h)
    · exact ih y h

theorem isOfOperands_of_sum {vs : List Value} {e : Fault} (h : sum vs = .error e) :
    e.isOfOperands = true :=
  isOfOperands_of_total (map_eq_error_iff.mp h)

theorem isOfOperands_of_average {vs : List Value} {e : Fault} (h : average vs = .error e) :
    e.isOfOperands = true := by
  rcases bind_eq_error_iff.mp h with h | ⟨x, -, h⟩
  · exact isOfOperands_of_total h
  · split at h
    · cases h
      rfl
    · cases h

/-- Every formula may call two functions. -/
theorem Catalogue.find?_builtIn (name : String) : Catalogue.builtIn.find? name =
    if Text.toUpper name = "AVERAGE" then some ⟨"AVERAGE", 0, none, average⟩
    else if Text.toUpper name = "SUM" then some ⟨"SUM", 0, none, sum⟩
    else none := by
  have haverage : Text.toUpper "AVERAGE" = "AVERAGE" := by decide
  have hsum : Text.toUpper "SUM" = "SUM" := by decide
  have hempty : Catalogue.empty.find? name = none := rfl
  rw [builtIn, find?_register, find?_register, haverage, hsum, hempty]
  simp only [eq_comm]

theorem Catalogue.body_of_find?_builtIn {name : String} {f : Function}
    (h : Catalogue.builtIn.find? name = some f) : f.body = sum ∨ f.body = average := by
  rw [find?_builtIn] at h
  split at h
  · cases h
    exact .inr rfl
  · split at h
    · cases h
      exact .inl rfl
    · cases h

theorem isOfOperands_of_callFunction {name : String} {vs : List Value} {e : Fault}
    (h : callFunction name vs = .error e) : e.isOfOperands = true := by
  unfold callFunction at h
  split at h
  · next f hf =>
    unfold Function.call at h
    split at h
    · rcases Catalogue.body_of_find?_builtIn hf with hb | hb
      · exact isOfOperands_of_sum (hb ▸ h)
      · exact isOfOperands_of_average (hb ▸ h)
    · cases h
      rfl
  · cases h
    rfl

/-! ## Where results come about -/

/-- Where the result of a tree comes about: in a leaf, in an operator or in a function. -/
inductive Origin (reference : String → Except Fault Value) (items : List Item) :
    Except Fault Value → Prop
  | number (x : Float) : Origin reference items (.ok (.number x))
  | text {s : String} (h : .text s ∈ items) : Origin reference items (.ok (.text s))
  | reference {a : String} (h : .reference a ∈ items) : Origin reference items (reference a)
  | operation (op : Operator) (x y : Value) : Origin reference items (op.operate x y)
  | call (function : String) (vs : List Value) :
      Origin reference items (callFunction function vs)

theorem Origin.mono {reference : String → Except Fault Value} {items more : List Item}
    {result : Except Fault Value}
    (h : Origin reference items result) (hitems : items ⊆ more) :
    Origin reference more result := by
  cases h with
  | number x => exact .number x
  | text h => exact .text (hitems h)
  | reference h => exact .reference (hitems h)
  | operation op x y => exact .operation op x y
  | call function vs => exact .call function vs

namespace Tree

section

variable (reference : String → Except Fault Value)

mutual

/-- The result of a tree comes about at one place in it, and is passed on if it is a fault. -/
theorem origin_of_evaluateWith (t : Tree) :
    Origin reference t.inOrder (t.evaluateWith reference) := by
  cases t with
  | number x => exact .number x
  | text s => exact .text (List.mem_singleton.mpr rfl)
  | reference address => exact .reference (List.mem_singleton.mpr rfl)
  | operation op left right =>
    have hleft := left.origin_of_evaluateWith
    have hright := right.origin_of_evaluateWith
    unfold evaluateWith
    cases hx : left.evaluateWith reference with
    | error e => exact (hx ▸ hleft).mono (List.subset_append_left _ _)
    | ok x =>
      cases hy : right.evaluateWith reference with
      | error e =>
        exact (hy ▸ hright).mono
          (List.Subset.trans (List.subset_cons_self _ _) (List.subset_append_right _ _))
      | ok y => exact .operation op x y
  | call function arguments =>
    unfold evaluateWith
    cases hvs : evaluateAllWith reference arguments with
    | error e =>
      exact (origin_of_evaluateAllWith arguments hvs).mono (List.subset_cons_self _ _)
    | ok vs => exact .call function vs

theorem origin_of_evaluateAllWith (ts : List Tree) {e : Fault}
    (h : evaluateAllWith reference ts = .error e) :
    Origin reference (inOrderOfAll ts) (.error e) := by
  cases ts with
  | nil => cases h
  | cons t ts =>
    have ht := t.origin_of_evaluateWith
    rcases bind_eq_error_iff.mp h with h | ⟨v, -, h⟩
    · exact (h ▸ ht).mono (List.subset_append_left _ _)
    rcases bind_eq_error_iff.mp h with h | ⟨vs, -, h⟩
    · exact (origin_of_evaluateAllWith ts h).mono (List.subset_append_right _ _)
    · cases h

end

end

/-! ## Values and faults of trees -/

section

variable {reference other : String → Except Fault Value}

mutual

/-- A tree has a value only if each of its references has one. -/
theorem ok_of_evaluateWith (t : Tree) {v : Value} (h : t.evaluateWith reference = .ok v) :
    ∀ a ∈ t.references, ∃ w, reference a = .ok w := by
  intro a ha
  cases t with
  | number x => cases ha
  | text s => cases ha
  | reference address =>
    obtain rfl : a = address := List.mem_singleton.mp ha
    exact ⟨v, h⟩
  | operation op left right =>
    obtain ⟨x, hx, h⟩ := bind_eq_ok_iff.mp h
    obtain ⟨y, hy, -⟩ := bind_eq_ok_iff.mp h
    rcases List.mem_append.mp ha with ha | ha
    · exact left.ok_of_evaluateWith hx a ha
    · exact right.ok_of_evaluateWith hy a ha
  | call function arguments =>
    obtain ⟨vs, hvs, -⟩ := bind_eq_ok_iff.mp h
    exact ok_of_evaluateAllWith arguments hvs a ha

theorem ok_of_evaluateAllWith (ts : List Tree) {vs : List Value}
    (h : evaluateAllWith reference ts = .ok vs) :
    ∀ a ∈ referencesOfAll ts, ∃ w, reference a = .ok w := by
  intro a ha
  cases ts with
  | nil => cases ha
  | cons t ts =>
    obtain ⟨w, hw, h⟩ := bind_eq_ok_iff.mp h
    obtain ⟨ws, hws, -⟩ := bind_eq_ok_iff.mp h
    rcases List.mem_append.mp ha with ha | ha
    · exact t.ok_of_evaluateWith hw a ha
    · exact ok_of_evaluateAllWith ts hws a ha

end

/-- A fault of a tree is about operands, or it is the fault of one of its references. -/
theorem error_of_evaluateWith (t : Tree) {e : Fault} (h : t.evaluateWith reference = .error e) :
    e.isOfOperands = true ∨ ∃ a ∈ t.references, reference a = .error e := by
  have horigin := t.origin_of_evaluateWith reference
  generalize t.evaluateWith reference = result at h horigin
  cases horigin with
  | number x => cases h
  | text hs => cases h
  | @reference a ha =>
    refine .inr ⟨a, ?_, h⟩
    rw [references_eq_filterMap]
    exact List.mem_filterMap.mpr ⟨_, ha, rfl⟩
  | operation op x y => exact .inl (Operator.isOfOperands_of_operate h)
  | call function vs => exact .inl (isOfOperands_of_callFunction h)

/-! ## References that change -/

mutual

/-- A tree that does not have a certain fault stays the same if only references
with this fault change. -/
theorem evaluateWith_eq_of_ne (t : Tree) {e : Fault}
    (hsame : ∀ a ∈ t.references, reference a ≠ .error e → other a = reference a)
    (h : t.evaluateWith reference ≠ .error e) :
    t.evaluateWith other = t.evaluateWith reference := by
  cases t with
  | number x => rfl
  | text s => rfl
  | reference address => exact hsame address (List.mem_singleton.mpr rfl) h
  | operation op left right =>
    -- where the left operand fails, the right one is not looked at and may have changed
    refine bind_eq_of_ne h
      (left.evaluateWith_eq_of_ne fun a ha => hsame a (List.mem_append_left _ ha))
      fun x _ h => ?_
    exact bind_eq_of_ne h
      (right.evaluateWith_eq_of_ne fun a ha => hsame a (List.mem_append_right _ ha))
      fun _ _ _ => rfl
  | call function arguments =>
    exact bind_eq_of_ne h (evaluateAllWith_eq_of_ne arguments hsame) fun _ _ _ => rfl

theorem evaluateAllWith_eq_of_ne (ts : List Tree) {e : Fault}
    (hsame : ∀ a ∈ referencesOfAll ts, reference a ≠ .error e → other a = reference a)
    (h : evaluateAllWith reference ts ≠ .error e) :
    evaluateAllWith other ts = evaluateAllWith reference ts := by
  cases ts with
  | nil => rfl
  | cons t ts =>
    refine bind_eq_of_ne h
      (t.evaluateWith_eq_of_ne fun a ha => hsame a (List.mem_append_left _ ha)) fun v _ h => ?_
    exact bind_eq_of_ne h
      (evaluateAllWith_eq_of_ne ts fun a ha => hsame a (List.mem_append_right _ ha))
      fun _ _ _ => rfl

end

/-- A tree is worth what its references make it worth, and nothing else counts. -/
theorem evaluateWith_congr (t : Tree) (h : ∀ a ∈ t.references, other a = reference a) :
    t.evaluateWith other = t.evaluateWith reference := by
  -- any fault will do that the tree does not have
  by_cases hfault : t.evaluateWith reference = .error .noCells
  · have hne : t.evaluateWith reference ≠ .error .chainTooLong := by
      rw [hfault]
      nofun
    exact t.evaluateWith_eq_of_ne (fun a ha _ => h a ha) hne
  · exact t.evaluateWith_eq_of_ne (fun a ha _ => h a ha) hfault

end

end Tree

end Formula

end Spreadsheet
