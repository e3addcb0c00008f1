import Spreadsheet.Proofs.Sheet.Changes
import Spreadsheet.Script

/-!
# Reachable sheets

Every sheet that comes up in use is an empty one to which changes were made, one
after the other.

- `Sheet.Reachable`: the sheets that changes lead to.
- `Sheet.script_of_edits`: what edits keep, a script keeps;
  `Sheet.WellFormed.script` is a case of it.
- `Sheet.Reachable.wellFormed`: every reachable sheet is well-formed.
-/

namespace Spreadsheet

namespace Sheet

/-- The sheets that changes lead to, from an empty one of any dimensions. -/
inductive Reachable : Sheet → Prop where
  | new (rows cols : Nat) : Reachable (new rows cols)
  | setInput {s t : Sheet} {p : Position} {input : String} (hs : Reachable s)
      (h : s.setInput p input = .ok t) : Reachable t
  | setDisplay {s t : Sheet} {p : Position} {display : String} (hs : Reachable s)
      (h : s.setDisplay p display = .ok t) : Reachable t
  | clear {s : Sheet} (hs : Reachable s) (p : Position) : Reachable (s.clear p)
  | resize {s : Sheet} (hs : Reachable s) (rows cols : Nat) : Reachable (s.resize rows cols)
  | rename {s : Sheet} (hs : Reachable s) (name : String) : Reachable (s.rename name)
  | edit {s t : Sheet} {mode : EditMode} {p : Position} {input shown : String}
      (hs : Reachable s)
      (h : s.edit mode p input = .ok (t, shown)) : Reachable t
  | editAt {s t : Sheet} {address input shown : String} (hs : Reachable s)
      (h : s.editAt address input = .ok (t, shown)) : Reachable t
  | recalculate {s : Sheet} (hs : Reachable s) (limit : Nat) : Reachable (s.recalculate limit)
  | script {s : Sheet} (hs : Reachable s) (mode : EditMode) (edits : List Edit) :
      Reachable (Script.apply s mode edits).1

/-- A script keeps whatever each of its edits keeps, also up to one that is refused. -/
theorem script_of_edits {P : Sheet → Prop} {mode : EditMode} {edits : List Edit}
    (hedits : ∀ e ∈ edits, ∀ {s t shown}, P s →
        s.edit mode e.address.position e.input = .ok (t, shown) → P t)
    {s : Sheet} (hs : P s) : P (Script.apply s mode edits).1 := by
  induction edits generalizing s with
  | nil => exact hs
  | cons e edits ih =>
    rw [Script.apply]
    cases h : s.edit mode e.address.position e.input with
    | error error => exact hs
    | ok result =>
      obtain ⟨t, shown⟩ := result
      exact ih (fun f hf => hedits f (List.mem_cons_of_mem e hf))
        (hedits e List.mem_cons_self hs h)

theorem script_of_edit {P : Sheet → Prop} {mode : EditMode}
    (hedit : ∀ {s t p input shown}, P s → s.edit mode p input = .ok (t, shown) → P t)
    {s : Sheet} (hs : P s) (edits : List Edit) : P (Script.apply s mode edits).1 :=
  script_of_edits (fun _ _ => hedit) hs

theorem WellFormed.script {s : Sheet} (hs : s.WellFormed) (mode : EditMode)
    (edits : List Edit) : (Script.apply s mode edits).1.WellFormed :=
  script_of_edit (fun hs h => hs.edit h) hs edits

/-- Every reachable sheet is well-formed, since the empty one is and each change keeps it so. -/
theorem Reachable.wellFormed {s : Sheet} (h : Reachable s) : s.WellFormed := by
  induction h with
  | new rows cols => exact wellFormed_new rows cols
  | setInput _ h ih => exact ih.setInput h
  | setDisplay _ h ih => exact ih.setDisplay h
  | clear _ p ih => exact ih.clear p
  | resize _ rows cols ih => exact ih.resize rows cols
  | rename _ name ih => exact ih.rename name
  | edit _ h ih => exact ih.edit h
  | editAt _ h ih => exact ih.editAt h
  | recalculate _ limit ih => exact ih.recalculate limit
  | script _ mode edits ih => exact ih.script mode edits

end Sheet

end Spreadsheet
