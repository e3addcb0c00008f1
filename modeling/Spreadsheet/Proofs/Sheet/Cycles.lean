import Mathlib.Data.List.Chain
import Mathlib.Logic.Relation
import Spreadsheet.Proofs.Formula.Stages
import Spreadsheet.Proofs.Sheet.Order
import Spreadsheet.Proofs.Sheet.Reads

/-!
# Cycles

Formulas may refer to each other in a circle. Nothing looks for circles: references are only
counted. Yet a formula that leads to a circle has no value under any limit, and a formula that
leads to none meets no limit that is greater than the number of formulas on the sheet.

- `Sheet.DependsOn`: from cell to cell, along the references in the formulas of a sheet.
- `Sheet.ReachesCycle`, `Sheet.LeadsToCycle`: a cycle comes after a cell, and after a formula.
- `exists_chain_of_reachesCycle`: such a cell is the start of chains of any length.
- `length_le_of_chain`: without a cycle, a chain passes no formula twice.
- `cycle_verdict`: both.
-/

namespace Spreadsheet

namespace Sheet

open Formula Relation

/-- A tree has a reference to the cell at a position, in some spelling. -/
def RefersTo (s : Sheet) (t : Tree) (p : Position) : Prop :=
  ∃ a ∈ t.references, ∃ address, s.resolve a = .ok address ∧ address.position = p

/-- The cell at a position holds a formula with the given tree. -/
def HoldsTree (s : Sheet) (p : Position) (t : Tree) : Prop :=
  ∃ c formula, s.cell? p = some c ∧ formulaBody? c.input = some formula ∧ read formula = .ok t

/-- The cell at the first position holds a formula with a reference to the cell
at the second. -/
def DependsOn (s : Sheet) (p q : Position) : Prop := ∃ t, s.HoldsTree p t ∧ s.RefersTo t q

/-- The cell at a position is on a cycle, or dependencies lead from it to one. -/
def ReachesCycle (s : Sheet) (p : Position) : Prop :=
  ∃ q, ReflTransGen s.DependsOn p q ∧ TransGen s.DependsOn q q

/-- A formula has a reference to a cell from which a cycle is reached. -/
def LeadsToCycle (s : Sheet) (formula : String) : Prop :=
  ∃ t p, read formula = .ok t ∧ s.RefersTo t p ∧ s.ReachesCycle p

section

variable {s : Sheet} {t u : Tree} {p : Position} {a : String} {as : List String}

theorem content_eq_formula_iff :
    s.content a = .ok (.formula t) ↔
      ∃ address, s.resolve a = .ok address ∧ s.HoldsTree address.position t := by
  constructor
  · intro h
    cases haddress : s.resolve a with
    | error e =>
      rw [content_of_error haddress] at h
      cases h
    | ok address =>
      cases hcell : s.cell? address.position with
      | none =>
        rw [content_of_none haddress hcell] at h
        cases h
      | some c =>
        rw [content_of_some haddress hcell] at h
        obtain ⟨formula, hformula, hread⟩ := contentOf_eq_formula_iff.mp h
        exact ⟨address, rfl, c, formula, hcell, hformula, hread⟩
  · rintro ⟨address, haddress, c, formula, hcell, hformula, hread⟩
    rw [content_of_some haddress hcell]
    exact contentOf_eq_formula_iff.mpr ⟨formula, hformula, hread⟩

/-! ## Cycles leave no value -/

/-- Dependencies go on and on from where a cycle is reached. -/
theorem ReachesCycle.exists_dependsOn (h : s.ReachesCycle p) :
    ∃ q, s.DependsOn p q ∧ s.ReachesCycle q := by
  obtain ⟨r, hpath, hcycle⟩ := h
  rcases hpath.cases_head with rfl | ⟨q, hstep, hpath⟩
  · -- the cell is on the cycle itself, and so is the next one
    obtain ⟨q, hstep, hback⟩ := TransGen.head'_iff.mp hcycle
    exact ⟨q, hstep, p, hback, hcycle⟩
  · exact ⟨q, hstep, r, hpath, hcycle⟩

theorem exists_chain_of_reachesCycle (hrefers : s.RefersTo t p)
    (hp : s.ReachesCycle p) (n : Nat) : ∃ as, Chain s.content t as ∧ as.length = n + 1 := by
  induction n generalizing t p with
  | zero =>
    obtain ⟨a, ha, -⟩ := hrefers
    exact ⟨[a], .last ha, rfl⟩
  | succ n ih =>
    obtain ⟨q, ⟨u, hu, hq⟩, hcycle⟩ := hp.exists_dependsOn
    obtain ⟨as, has, hlength⟩ := ih hq hcycle
    obtain ⟨a, ha, address, haddress, rfl⟩ := hrefers
    have hlook : s.content a = .ok (.formula u) :=
      content_eq_formula_iff.mpr ⟨address, haddress, hu⟩
    exact ⟨a :: as, .step ha hlook has, congrArg (· + 1) hlength⟩

theorem exists_error_of_leadsToCycle {formula : String} (h : s.LeadsToCycle formula)
    (limit : Nat) : ∃ fault, s.valueOf limit formula = .error fault := by
  obtain ⟨t, p, hread, hrefers, hp⟩ := h
  obtain ⟨as, has, hlength⟩ := exists_chain_of_reachesCycle hrefers hp limit
  have hlong : limit < as.length := by
    rw [hlength]
    exact limit.lt_succ_self
  cases hvalue : s.valueOf limit formula with
  | error fault => exact ⟨fault, rfl⟩
  | ok v =>
    -- a value is one of the tree that was read, whose chains are too long
    obtain ⟨u, hu, hv⟩ := bind_eq_ok_iff.mp hvalue
    cases hread.symm.trans hu
    exact absurd hv (not_ok_of_chain has hlong v)

/-! ## Chains without cycles -/

/-- The cells with formulas that a chain passes on its way. Only its last
reference may lead elsewhere. -/
theorem exists_path_of_chain (h : Chain s.content t as) :
    ∃ ps : List Position, as.length = ps.length + 1 ∧ (∀ p ∈ ps.head?, s.RefersTo t p) ∧
      ps.IsChain s.DependsOn ∧ ∀ p ∈ ps, ∃ u, s.HoldsTree p u := by
  induction h with
  | last ha => exact ⟨[], rfl, nofun, .nil, nofun⟩
  | @step t u a as ha hlook _ ih =>
    obtain ⟨address, haddress, hu⟩ := content_eq_formula_iff.mp hlook
    obtain ⟨ps, hlength, hhead, hpath, hformulas⟩ := ih
    refine ⟨address.position :: ps, congrArg (· + 1) hlength, fun p hp => ?_, ?_,
      fun p hp => ?_⟩
    · cases hp
      exact ⟨a, ha, address, haddress, rfl⟩
    · exact List.isChain_cons.mpr ⟨fun q hq => ⟨u, hu, hhead q hq⟩, hpath⟩
    · rcases List.mem_cons.mp hp with rfl | hp
      · exact ⟨u, hu⟩
      · exact hformulas p hp

/-- On a path to no cycle no cell comes twice. -/
theorem nodup_of_isChain {ps : List Position} (h : ps.IsChain s.DependsOn)
    (hacyclic : ∀ p ∈ ps.head?, ¬ s.ReachesCycle p) : ps.Nodup := by
  cases ps with
  | nil => exact List.nodup_nil
  | cons p ps =>
    have hpairs : (p :: ps).Pairwise (TransGen s.DependsOn) :=
      List.isChain_iff_pairwise.mp (h.imp fun _ _ => .single)
    have hfrom {q : Position} (hq : q ∈ p :: ps) : ReflTransGen s.DependsOn p q := by
      rcases List.mem_cons.mp hq with rfl | hq
      · exact .refl
      · exact ((List.pairwise_cons.mp hpairs).1 q hq).to_reflTransGen
    refine hpairs.imp_of_mem fun {q r} hq _ hqr heq => ?_
    -- a cell that came twice would be on a cycle
    subst heq
    exact hacyclic p rfl ⟨q, hfrom hq, hqr⟩

theorem HoldsTree.mem_formulas (h : s.HoldsTree p t) : p ∈ s.formulas.map Prod.fst := by
  obtain ⟨c, formula, hcell, hformula, -⟩ := h
  have hc : c.isFormula = true := Cell.isFormula_of_body hformula
  exact List.mem_map.mpr
    ⟨(p, c), List.mem_filter.mpr ⟨Entries.mem_of_find?_eq_some hcell, hc⟩, rfl⟩

/-- A chain that comes to no cycle passes different formulas, of which there are
only so many. -/
theorem length_le_of_chain (hacyclic : ∀ p, s.RefersTo t p → ¬ s.ReachesCycle p)
    (h : Chain s.content t as) : as.length ≤ s.formulas.length + 1 := by
  obtain ⟨ps, hlength, hhead, hpath, hformulas⟩ := exists_path_of_chain h
  have hnodup : ps.Nodup := nodup_of_isChain hpath fun p hp => hacyclic p (hhead p hp)
  have hsubset : ps ⊆ s.formulas.map Prod.fst := by
    intro p hp
    obtain ⟨u, hu⟩ := hformulas p hp
    exact hu.mem_formulas
  have hle : ps.length ≤ s.formulas.length := by
    rw [← List.length_map (f := Prod.fst)]
    exact hnodup.length_le_of_subset hsubset
  omega

end

section

variable {s : Sheet} {formula : String} {limit : Nat}

theorem valueOf_ne_chainTooLong (hacyclic : ¬ s.LeadsToCycle formula)
    (hlimit : s.formulas.length < limit) : s.valueOf limit formula ≠ .error .chainTooLong := by
  intro h
  rcases bind_eq_error_iff.mp h with h | ⟨t, hread, h⟩
  · exact stage_ne_evaluate_of_read h rfl
  · obtain ⟨as, has, hlong⟩ :=
      exists_chain_of_chainTooLong (fun _ a _ => s.content_ne_chainTooLong a) h
    have hshort : as.length ≤ s.formulas.length + 1 :=
      length_le_of_chain (fun p hrefers hp => hacyclic ⟨t, p, hread, hrefers, hp⟩) has
    omega

/-- A value or a fault other than that of the limit is the same under every higher limit. -/
theorem valueOf_eq_of_le {more : Nat} (hle : limit ≤ more)
    (h : s.valueOf limit formula ≠ .error .chainTooLong) :
    s.valueOf more formula = s.valueOf limit formula :=
  bind_eq_of_ne h (fun _ => rfl) fun t _ ht =>
    t.evaluateWith_eq_of_ne (fun _ _ ha => follow_eq_of_le hle ha) ht

end

/-- A formula that leads to a cycle has a fault under every limit. One that leads to no cycle
does not meet any limit that is greater than the number of formulas on the sheet, and comes to
the same under all of these limits. -/
theorem cycle_verdict (s : Sheet) (formula : String) :
    (s.LeadsToCycle formula → ∀ limit, ∃ fault, s.valueOf limit formula = .error fault) ∧
    (¬ s.LeadsToCycle formula → ∀ limit, s.formulas.length + 1 ≤ limit →
      s.valueOf limit formula ≠ .error .chainTooLong ∧
      s.valueOf limit formula = s.valueOf (s.formulas.length + 1) formula) := by
  refine ⟨exists_error_of_leadsToCycle, fun hacyclic limit hlimit => ?_⟩
  have hleast : s.valueOf (s.formulas.length + 1) formula ≠ .error .chainTooLong :=
    valueOf_ne_chainTooLong hacyclic (Nat.lt_succ_self _)
  exact ⟨valueOf_ne_chainTooLong hacyclic hlimit, valueOf_eq_of_le hlimit hleast⟩

theorem leadsToCycle_circle : circle.LeadsToCycle "A1" := by
  have hresolveA1 : circle.resolve "A1" = .ok ⟨⟨0, 0⟩, false, false⟩ := rfl
  have hresolveB1 : circle.resolve "B1" = .ok ⟨⟨0, 1⟩, false, false⟩ := rfl
  have hA1 : circle.RefersTo (.reference "A1") ⟨0, 0⟩ :=
    ⟨"A1", List.mem_singleton_self _, _, hresolveA1, rfl⟩
  have hB1 : circle.RefersTo (.reference "B1") ⟨0, 1⟩ :=
    ⟨"B1", List.mem_singleton_self _, _, hresolveB1, rfl⟩
  have hthere : circle.DependsOn ⟨0, 0⟩ ⟨0, 1⟩ :=
    ⟨.reference "B1", ⟨.ofInput "=B1", "B1", rfl, rfl, read_B1⟩, hB1⟩
  have hback : circle.DependsOn ⟨0, 1⟩ ⟨0, 0⟩ :=
    ⟨.reference "A1", ⟨.ofInput "=A1", "A1", rfl, rfl, read_A1⟩, hA1⟩
  exact ⟨.reference "A1", ⟨0, 0⟩, read_A1, hA1, ⟨0, 0⟩, .refl, .tail (.single hthere) hback⟩

/-- On the sheet with one step, only that step is a dependency. -/
theorem dependsOn_stepToB1 {p q : Position} (h : stepToB1.DependsOn p q) :
    p = ⟨0, 0⟩ ∧ q = ⟨0, 1⟩ := by
  obtain ⟨t, ⟨c, formula, hcell, hformula, hread⟩, a, ha, address, haddress, rfl⟩ := h
  have hresolveB1 : stepToB1.resolve "B1" = .ok ⟨⟨0, 1⟩, false, false⟩ := rfl
  have hmem : (p, c) ∈ stepToB1.entries := Entries.mem_of_find?_eq_some hcell
  rcases List.mem_cons.mp hmem with hA1 | hmem
  · cases hA1
    cases hformula
    cases read_B1.symm.trans hread
    obtain rfl := List.mem_singleton.mp ha
    cases hresolveB1.symm.trans haddress
    exact ⟨rfl, rfl⟩
  · cases List.mem_singleton.mp hmem
    cases hformula

theorem not_leadsToCycle_stepToB1 : ¬ stepToB1.LeadsToCycle "A1" := by
  rintro ⟨t, p, -, -, q, -, hcycle⟩
  obtain ⟨r, hstep, -⟩ := TransGen.head'_iff.mp hcycle
  obtain ⟨r, -, hback⟩ := TransGen.tail'_iff.mp hcycle
  have hends := (dependsOn_stepToB1 hstep).1.symm.trans (dependsOn_stepToB1 hback).2
  cases hends

theorem cycle_verdict_circle_stepToB1 :
    (circle.LeadsToCycle "A1" ∧ ∃ fault, circle.valueOf usualLimit "A1" = .error fault) ∧
      (¬ stepToB1.LeadsToCycle "A1" ∧ stepToB1.valueOf 2 "A1" ≠ .error .chainTooLong ∧
        stepToB1.valueOf usualLimit "A1" = stepToB1.valueOf 2 "A1") :=
  ⟨⟨leadsToCycle_circle, (cycle_verdict circle "A1").1 leadsToCycle_circle usualLimit⟩,
    not_leadsToCycle_stepToB1,
    ((cycle_verdict stepToB1 "A1").2 not_leadsToCycle_stepToB1 2 (by decide)).1,
    ((cycle_verdict stepToB1 "A1").2 not_leadsToCycle_stepToB1 usualLimit (by decide)).2⟩

end Sheet

end Spreadsheet
