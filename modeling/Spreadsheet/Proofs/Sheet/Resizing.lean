import Spreadsheet.Proofs.Formula.SideBySide
import Spreadsheet.Proofs.Sheet.Changes
import Spreadsheet.Proofs.Sheet.Reads

/-!
# Other dimensions

A sheet that gets other dimensions may lose cells and may get room for new ones. A formula is
worth the same before and after, unless it comes to a reference that names no cell of one of the
two grids, and then it has the fault of this reference there. No formula takes a cell that was
dropped for an empty one.

- `SameUnless`: two outcomes that are the same, or one of which has a fault of a certain kind.
- `inputAt_resize`: what was typed into the cells of the new grid.
- `follow_resize`: the outcomes of a reference on both sheets.
- `settled_of_reads`: a formula that still has a value reads no cell that was dropped.
- `valueOf_resize`: all of it.
-/

namespace Spreadsheet

namespace Formula

/-- The two outcomes are the same, or the first has a fault of the kind `P`, or the
second one of the kind `Q`. -/
def SameUnless (P Q : Fault → Prop) {α : Type} (x y : Except Fault α) : Prop :=
  x = y ∨ (∃ e, P e ∧ x = .error e) ∨ ∃ e, Q e ∧ y = .error e

/-- Where one evaluation has such a fault it is over, and until then both are the same. -/
theorem stepwise_sameUnless (P Q : Fault → Prop) : Stepwise (SameUnless P Q) where
  refl x := .inl rfl
  bind {_ _ x _ _ _} h hthen := by
    rcases h with rfl | ⟨e, he, rfl⟩ | ⟨e, he, rfl⟩
    · cases x with
      | error e => exact .inl rfl
      | ok a => exact hthen a
    · exact .inr (.inl ⟨e, he, rfl⟩)
    · exact .inr (.inr ⟨e, he, rfl⟩)

end Formula

namespace Sheet

open Formula

section

variable {s : Sheet} {rows cols : Nat} {p : Position}

theorem contains_resize :
    (s.resize rows cols).contains p = true ↔ p.row < rows ∧ p.col < cols :=
  contains_iff

/-- What was typed into a cell of the new grid is still there. -/
theorem inputAt_resize (hp : (s.resize rows cols).contains p = true) :
    (s.resize rows cols).inputAt p = s.inputAt p := by
  have hfind : (s.resize rows cols).cell? p = s.cell? p :=
    (Entries.find?_filter (fun q => q.row < rows && q.col < cols) p s.entries).trans (if_pos hp)
  unfold inputAt
  rw [hfind]

/-! ## Outcomes on both sheets -/

/-- Is the fault that of a reference to no cell of a grid? -/
def IsInvalid (e : Fault) : Prop := ∃ a, e = .invalidReference a

/-- Is the fault that of a reference to no cell of a grid that then grows? -/
def IsInvalidBeforeGrowth (s : Sheet) (rows cols : Nat) (e : Fault) : Prop :=
  IsInvalid e ∧ ¬ (rows ≤ s.rows ∧ cols ≤ s.cols)

/-- A reference is worth the same on both sheets, unless one of the two grids does not
have its cell or that of a reference to which it leads. Only growth makes room for a
cell that was not there. -/
theorem follow_resize (s : Sheet) (rows cols limit : Nat) (a : String) :
    SameUnless (IsInvalidBeforeGrowth s rows cols) IsInvalid
      (follow (some s.content) limit a)
        (follow (some (s.resize rows cols).content) limit a) := by
  refine follow_stepwise Eq (stepwise_sameUnless _ _) ?_ limit a a rfl
  rintro reference reference' hnext a _ rfl
  rw [content_bind, content_bind]
  cases hbefore : s.resolve a with
  | error e =>
    cases hafter : (s.resize rows cols).resolve a with
    | error e => exact .inl rfl
    | ok address =>
      refine .inr (.inl ⟨_, ⟨⟨a, rfl⟩, fun ⟨hrows, hcols⟩ => ?_⟩, rfl⟩)
      obtain ⟨hparse, hinside⟩ := resolve_eq_ok_iff.mp hafter
      obtain ⟨hrow, hcol⟩ := contains_resize.mp hinside
      -- the cell was in the larger grid already
      have hcontains : s.contains address.position = true :=
        contains_iff.mpr ⟨Nat.lt_of_lt_of_le hrow hrows, Nat.lt_of_lt_of_le hcol hcols⟩
      cases hbefore.symm.trans (resolve_eq_ok_iff.mpr ⟨hparse, hcontains⟩)
  | ok address =>
    cases hafter : (s.resize rows cols).resolve a with
    | error e => exact .inr (.inr ⟨_, ⟨a, rfl⟩, rfl⟩)
    | ok address' =>
      obtain ⟨hparse, hinside⟩ := resolve_eq_ok_iff.mp hafter
      cases (resolve_eq_ok_iff.mp hbefore).1.symm.trans hparse
      show SameUnless _ _ (contentOf (s.inputAt address.position) >>= _)
        (contentOf ((s.resize rows cols).inputAt address.position) >>= _)
      rw [inputAt_resize hinside]
      exact (stepwise_sameUnless _ _).content hnext _

theorem sameUnless_valueOf_resize (s : Sheet) (rows cols limit : Nat) (formula : String) :
    SameUnless (IsInvalidBeforeGrowth s rows cols) IsInvalid
      (s.valueOf limit formula) ((s.resize rows cols).valueOf limit formula) := by
  refine (stepwise_sameUnless _ _).bind (.inl rfl) fun t => ?_
  refine (Tree.Alike.refl t fun _ _ => rfl).evaluateWith (stepwise_sameUnless _ _) ?_
  rintro a _ rfl
  exact follow_resize s rows cols limit a

/-! ## Cells that were dropped -/

/-- A reference with a value is the address of a cell, and a formula in this
cell has a value. -/
theorem exists_of_follow {limit : Nat} {a : String} {v : Value}
    (h : follow (some s.content) limit a = .ok v) :
    ∃ address, s.resolve a = .ok address ∧
      ∀ next, formulaBody? (s.inputAt address.position) = some next →
        ∃ limit w, s.valueOf limit next = .ok w := by
  cases limit with
  | zero => cases h
  | succ limit =>
    rw [follow_succ, content_bind] at h
    cases haddress : s.resolve a with
    | error e =>
      rw [haddress] at h
      cases h
    | ok address =>
      refine ⟨address, rfl, fun next hnext => ?_⟩
      rw [haddress] at h
      obtain ⟨content, hcontent, h⟩ := bind_eq_ok_iff.mp h
      rw [contentOf, hnext] at hcontent
      obtain ⟨t, hread, rfl⟩ := map_eq_ok_iff.mp hcontent
      exact ⟨limit, v, bind_eq_ok_iff.mpr ⟨t, hread, h⟩⟩

/-- If a formula has a value on the new sheet, then each cell that it reads was kept, and so has
each formula typed there. -/
theorem settled_of_reads {formula : String} (hp : s.Reads formula p) {limit : Nat} {v : Value}
    (hvalue : (s.resize rows cols).valueOf limit formula = .ok v) :
    (s.resize rows cols).contains p = true ∧ ∀ next, formulaBody? (s.inputAt p) = some next →
      ∃ limit w, (s.resize rows cols).valueOf limit next = .ok w := by
  induction hp generalizing limit v with
  | reference hread ha haddress =>
    obtain ⟨t, ht, hvalue⟩ := bind_eq_ok_iff.mp hvalue
    cases hread.symm.trans ht
    obtain ⟨w, hw⟩ := Tree.ok_of_evaluateWith _ hvalue _ ha
    obtain ⟨address, hafter, hnext⟩ := exists_of_follow hw
    obtain ⟨hparse, hinside⟩ := resolve_eq_ok_iff.mp hafter
    cases (resolve_eq_ok_iff.mp haddress).1.symm.trans hparse
    rw [inputAt_resize hinside] at hnext
    exact ⟨hinside, hnext⟩
  | through hp hnext hq ihp ihq =>
    obtain ⟨_, hformula⟩ := ihp hvalue
    obtain ⟨limit', w, hw⟩ := hformula _ hnext
    exact ihq hw

end

/-- On a sheet that gets other dimensions a formula keeps its value or its fault, unless it has
the fault of an invalid reference before or after. If neither dimension grows, it can only be so
after. And if a formula has a value after, it reads no cell that was dropped. -/
theorem valueOf_resize (s : Sheet) (rows cols limit : Nat) (formula : String) :
    let before := s.valueOf limit formula
    let after := (s.resize rows cols).valueOf limit formula
    (before = after ∨ (∃ a, before = .error (.invalidReference a)) ∨
      ∃ a, after = .error (.invalidReference a)) ∧
    (rows ≤ s.rows → cols ≤ s.cols →
      after = before ∨ ∃ a, after = .error (.invalidReference a)) ∧
    (∀ v, after = .ok v → ∀ p, s.Reads formula p → p.row < rows ∧ p.col < cols) := by
  intro before after
  have hsame : SameUnless (IsInvalidBeforeGrowth s rows cols) IsInvalid before after :=
    sameUnless_valueOf_resize s rows cols limit formula
  refine ⟨?_, fun hrows hcols => ?_, fun v hv p hp => ?_⟩
  · rcases hsame with heq | ⟨_, ⟨⟨a, rfl⟩, -⟩, ha⟩ | ⟨_, ⟨a, rfl⟩, ha⟩
    · exact .inl heq
    · exact .inr (.inl ⟨a, ha⟩)
    · exact .inr (.inr ⟨a, ha⟩)
  · rcases hsame with heq | ⟨_, ⟨-, hgrowth⟩, -⟩ | ⟨_, ⟨a, rfl⟩, ha⟩
    · exact .inl heq.symm
    · exact absurd ⟨hrows, hcols⟩ hgrowth
    · exact .inr ⟨a, ha⟩
  · exact contains_resize.mp (settled_of_reads hp hv).1

/-- Without its column `B` the sheet has nothing to say about `A1`, which refers to `B1`. -/
theorem valueOf_resize_stepToB1 :
    (1 ≤ stepToB1.rows ∧ 1 ≤ stepToB1.cols ∧
      ((stepToB1.resize 1 1).valueOf 2 "A1" = stepToB1.valueOf 2 "A1" ∨
        ∃ a, (stepToB1.resize 1 1).valueOf 2 "A1" = .error (.invalidReference a))) ∧
    ((stepToB1.resize 9 2).valueOf 2 "A1" = .ok (.ofInput "2") ∧ stepToB1.Reads "A1" ⟨0, 1⟩ ∧
      0 < 9 ∧ 1 < 2) := by
  have hrows : 1 ≤ stepToB1.rows := Nat.le_refl 1
  have hcols : 1 ≤ stepToB1.cols := by decide
  have hresolve : (stepToB1.resize 9 2).resolve "A1" = .ok ⟨⟨0, 0⟩, false, false⟩ := rfl
  have hcontent : (stepToB1.resize 9 2).content "A1" = .ok (.formula (.reference "B1")) :=
    content_of_formulaBody? hresolve rfl read_B1
  have hvalue : (stepToB1.resize 9 2).valueOf 2 "A1" = .ok (.ofInput "2") := by
    refine bind_eq_ok_iff.mpr ⟨_, read_A1, ?_⟩
    show follow _ 2 "A1" = _
    rw [follow_succ, hcontent]
    rfl
  have hresolveA1 : stepToB1.resolve "A1" = .ok ⟨⟨0, 0⟩, false, false⟩ := rfl
  have hresolveB1 : stepToB1.resolve "B1" = .ok ⟨⟨0, 1⟩, false, false⟩ := rfl
  have hA1 : stepToB1.Reads "A1" ⟨0, 0⟩ :=
    .reference read_A1 (List.mem_singleton_self _) hresolveA1
  have hB1 : stepToB1.Reads "B1" ⟨0, 1⟩ :=
    .reference read_B1 (List.mem_singleton_self _) hresolveB1
  have hreads : stepToB1.Reads "A1" ⟨0, 1⟩ := .through hA1 rfl hB1
  exact ⟨⟨hrows, hcols, (valueOf_resize stepToB1 1 1 2 "A1").2.1 hrows hcols⟩,
    hvalue, hreads, (valueOf_resize stepToB1 9 2 2 "A1").2.2 _ hvalue _ hreads⟩

end Sheet

end Spreadsheet
