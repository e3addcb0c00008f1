import Spreadsheet.Proofs.Sheet.Reachable

/-!
# The order of a recalculation

A recalculation may visit the formulas in any order and show each value as soon as it is there,
because no formula reads what cells show.

- `Sheet.visit`: calculates one cell and shows its value at once.
- `Sheet.refreshOnly`: a sheet on which some of the formulas were visited.
- `setDisplay_refreshOnly`, `visit_refreshOnly`: one more visit.
- `foldlM_refreshOnly`: a run of visits.
- `foldlM_setDisplay_formulas`: all values are calculated first and shown afterwards.
- `recalculate_recalculate`: a second recalculation changes nothing.
- `recalculate_order`: all orders end in the same sheet.
-/

namespace Spreadsheet

namespace Sheet

/-- Calculates the cell at a position on the sheet as it is, and shows the value at once. -/
def visit (limit : Nat) (s : Sheet) (p : Position) : Except Error Sheet :=
  s.setDisplay p (s.displayOf limit (s.inputAt p))

/-- A cell when those at given positions were visited. -/
def refreshAt (s : Sheet) (limit : Nat) (ps : List Position) (p : Position) (c : Cell) : Cell :=
  if p ∈ ps then s.refresh limit c else c

/-- The sheet when the cells at given positions were visited, and no others. -/
def refreshOnly (s : Sheet) (limit : Nat) (ps : List Position) : Sheet :=
  s.mapCells (s.refreshAt limit ps)

/-! ## Cells -/

section

variable {s : Sheet} {limit : Nat} {ps : List Position} {p : Position} {c : Cell}

theorem refreshAt_of_mem (hp : p ∈ ps) : s.refreshAt limit ps p c = s.refresh limit c :=
  if_pos hp

/-- Cells that have not been visited are as they were. -/
theorem refreshAt_of_not_mem (hp : p ∉ ps) : s.refreshAt limit ps p c = c :=
  if_neg hp

/-- Visits change no input. -/
theorem refreshAt_input : (s.refreshAt limit ps p c).input = c.input := by
  by_cases hp : p ∈ ps
  · rw [refreshAt_of_mem hp, refresh_input]
  · rw [refreshAt_of_not_mem hp]

theorem isBlank_refreshAt : (s.refreshAt limit ps p c).isBlank = c.isBlank := by
  by_cases hp : p ∈ ps
  · rw [refreshAt_of_mem hp, isBlank_refresh]
  · rw [refreshAt_of_not_mem hp]

/-- A visit changes one cell. -/
theorem refreshAt_cons_of_ne {q : Position} (hq : p ≠ q) :
    s.refreshAt limit (q :: ps) p c = s.refreshAt limit ps p c := by
  by_cases hp : p ∈ ps
  · rw [refreshAt_of_mem hp, refreshAt_of_mem (List.mem_cons_of_mem q hp)]
  · rw [refreshAt_of_not_mem hp,
      refreshAt_of_not_mem (List.not_mem_cons_of_ne_of_not_mem hq hp)]

end

/-! ## Visits -/

section

variable {s : Sheet} {limit : Nat} {ps : List Position} {p : Position} {c : Cell}

/-- So formulas are worth the same on the way. -/
theorem sameInputs_refreshOnly : SameInputs (s.refreshOnly limit ps) s :=
  sameInputs_mapCells fun _ _ => refreshAt_input

theorem WellFormed.refreshOnly (hs : s.WellFormed) : (s.refreshOnly limit ps).WellFormed :=
  hs.mapCells fun _ _ => isBlank_refreshAt

/-- Showing the value of a formula at its cell is one more visit. -/
theorem setDisplay_refreshOnly (hs : s.WellFormed) (hcell : s.cell? p = some c)
    (hc : c.isFormula = true) :
    (s.refreshOnly limit ps).setDisplay p (s.displayOf limit c.input) =
      .ok (s.refreshOnly limit (p :: ps)) := by
  have hinside : (s.refreshOnly limit ps).contains p = true := hs.contains_of_cell? hcell
  have hinput : (s.refreshOnly limit ps).inputAt p = c.input :=
    (sameInputs_refreshOnly.inputs p).trans (inputAt_of_cell? hcell)
  refine setDisplay_eq_ok_iff.mpr ⟨hinside, ?_⟩
  refine eq_of_cell?_eq hs.refreshOnly (wellFormed_store hs.refreshOnly hinside _) rfl rfl rfl
    fun q => ?_
  rw [cell?_store, hinput]
  unfold refreshOnly
  rw [cell?_mapCells, cell?_mapCells]
  by_cases hq : p = q
  · -- the formula keeps its cell, even where its value shows as nothing
    subst hq
    have hblank : (⟨c.input, s.displayOf limit c.input⟩ : Cell).isBlank = false :=
      Cell.isBlank_eq_false hc
    rw [if_pos rfl, hblank, hcell, Option.map_some, refreshAt_of_mem List.mem_cons_self,
      refresh_of_isFormula hc]
    rfl
  · rw [if_neg hq]
    cases s.cell? q with
    | none => rfl
    | some d => exact congrArg some (refreshAt_cons_of_ne (Ne.symm hq))

/-- A visit sees the same inputs as before all visits, and so the same value. -/
theorem visit_refreshOnly (hs : s.WellFormed) (hcell : s.cell? p = some c)
    (hc : c.isFormula = true) :
    visit limit (s.refreshOnly limit ps) p = .ok (s.refreshOnly limit (p :: ps)) := by
  have hsame : SameInputs (s.refreshOnly limit ps) s := sameInputs_refreshOnly
  unfold visit
  rw [hsame.displayOf, hsame.inputs, inputAt_of_cell? hcell]
  exact setDisplay_refreshOnly hs hcell hc

/-- A run of steps that are visits. -/
theorem foldlM_refreshOnly {step : Sheet → Position → Except Error Sheet}
    {order : List Position} (hstep : ∀ ps, ∀ p ∈ order,
      step (s.refreshOnly limit ps) p = .ok (s.refreshOnly limit (p :: ps)))
        (ps : List Position) :
    order.foldlM step (s.refreshOnly limit ps) =
      .ok (s.refreshOnly limit (order.reverse ++ ps)) := by
  -- the order is only that of the list of visited positions, of which nothing
  -- but its members counts
  induction order generalizing ps with
  | nil => rfl
  | cons p order ih =>
    rw [List.foldlM_cons, hstep ps p List.mem_cons_self, List.reverse_cons, List.append_assoc]
    exact ih (fun qs q hq => hstep qs q (List.mem_cons_of_mem _ hq)) (p :: ps)

/-! ## All formulas -/

theorem refreshOnly_nil (s : Sheet) (limit : Nat) : s.refreshOnly limit [] = s :=
  (mapCells_congr fun _ _ => refreshAt_of_not_mem List.not_mem_nil).trans (mapCells_id s)

/-- When every formula was visited, all values show. -/
theorem refreshOnly_of_forall (h : ∀ e ∈ s.formulas, e.1 ∈ ps) :
    s.refreshOnly limit ps = s.recalculate limit := by
  rw [refreshOnly, recalculate_eq_mapCells]
  refine mapCells_congr fun e he => ?_
  by_cases hc : e.2.isFormula = true
  · exact refreshAt_of_mem (h e (List.mem_filter.mpr ⟨he, hc⟩))
  · -- a literal is the same whether or not it was visited
    unfold refreshAt
    rw [refresh_of_not_isFormula hc, ite_self]

/-- What is listed as a formula is found where it is listed. -/
theorem cell?_of_mem_formulas (hs : s.WellFormed) {e : Position × Cell} (he : e ∈ s.formulas) :
    s.cell? e.1 = some e.2 ∧ e.2.isFormula = true := by
  obtain ⟨hmem, hc⟩ := List.mem_filter.mp he
  exact ⟨(Entries.find?_eq_some_iff hs.ordered).mpr hmem, hc⟩

/-- A second recalculation changes nothing, since the first changes nothing that was typed. -/
theorem recalculate_recalculate (s : Sheet) (limit : Nat) :
    (s.recalculate limit).recalculate limit = s.recalculate limit := by
  have hsame : SameInputs (s.recalculate limit) s := sameInputs_recalculate s limit
  have hrefresh (c : Cell) :
      (s.recalculate limit).refresh limit (s.refresh limit c) = s.refresh limit c := by
    by_cases hc : c.isFormula = true
    · rw [refresh_of_isFormula ((isFormula_refresh s limit c).trans hc), refresh_input,
        hsame.displayOf, refresh_of_isFormula hc]
    · rw [refresh_of_not_isFormula hc, refresh_of_not_isFormula hc]
  calc
    (s.recalculate limit).recalculate limit
      = (s.mapCells fun _ => s.refresh limit).mapCells
          fun _ => (s.recalculate limit).refresh limit := rfl
    _ = s.mapCells fun _ c => (s.recalculate limit).refresh limit (s.refresh limit c) :=
      mapCells_mapCells s _ _
    _ = s.mapCells fun _ => s.refresh limit := mapCells_congr fun e _ => hrefresh e.2

/-- The values of all formulas, calculated first and then shown in row-major order, make
the recalculated sheet. -/
theorem foldlM_setDisplay_formulas {s : Sheet} (hs : s.WellFormed) (limit : Nat) :
    (s.formulas.map fun e => (e.1, s.displayOf limit e.2.input)).foldlM
      (fun t w => t.setDisplay w.1 w.2) s = .ok (s.recalculate limit) := by
  have hmap : (s.formulas.map fun e => (e.1, s.displayOf limit e.2.input)) =
      (s.formulas.map Prod.fst).map fun p => (p, s.displayOf limit (s.inputAt p)) := by
    rw [List.map_map]
    refine List.map_congr_left fun e he => ?_
    rw [Function.comp_apply, inputAt_of_cell? (cell?_of_mem_formulas hs he).1]
  have hstep : ∀ ps, ∀ p ∈ s.formulas.map Prod.fst,
      (s.refreshOnly limit ps).setDisplay p (s.displayOf limit (s.inputAt p)) =
        .ok (s.refreshOnly limit (p :: ps)) := by
    intro ps p hp
    obtain ⟨e, he, rfl⟩ := List.mem_map.mp hp
    obtain ⟨hcell, hc⟩ := cell?_of_mem_formulas hs he
    rw [inputAt_of_cell? hcell]
    exact setDisplay_refreshOnly hs hcell hc
  have hall : ∀ e ∈ s.formulas, e.1 ∈ (s.formulas.map Prod.fst).reverse ++ [] := by
    intro e he
    rw [List.append_nil, List.mem_reverse]
    exact List.mem_map_of_mem he
  calc
    (s.formulas.map fun e => (e.1, s.displayOf limit e.2.input)).foldlM
      (fun t w => t.setDisplay w.1 w.2) s
      = (s.formulas.map Prod.fst).foldlM
        (fun t p => t.setDisplay p (s.displayOf limit (s.inputAt p)))
          (s.refreshOnly limit []) := by rw [hmap, List.foldlM_map, refreshOnly_nil]
    _ = .ok (s.refreshOnly limit ((s.formulas.map Prod.fst).reverse ++ [])) :=
      foldlM_refreshOnly hstep []
    _ = .ok (s.recalculate limit) := by rw [refreshOnly_of_forall hall]

end

/-- The formulas of a reachable sheet may be visited in any order, each value showing at once,
or they may all be calculated first and then shown in any order. Both end in the recalculated
sheet, which another recalculation leaves as it is. -/
theorem recalculate_order {s : Sheet} (h : Reachable s) (limit : Nat) {order : List Position}
    (horder : order.Perm (s.formulas.map Prod.fst)) :
    order.foldlM (visit limit) s = .ok (s.recalculate limit) ∧
    (order.map fun p => (p, s.displayOf limit (s.inputAt p))).foldlM
      (fun t w => t.setDisplay w.1 w.2) s = .ok (s.recalculate limit) ∧
    (s.recalculate limit).recalculate limit = s.recalculate limit := by
  have hs : s.WellFormed := h.wellFormed
  have hformula : ∀ p ∈ order, ∃ c, s.cell? p = some c ∧ c.isFormula = true := by
    intro p hp
    obtain ⟨e, he, rfl⟩ := List.mem_map.mp (horder.mem_iff.mp hp)
    exact ⟨e.2, cell?_of_mem_formulas hs he⟩
  have hall : ∀ e ∈ s.formulas, e.1 ∈ order.reverse ++ [] := by
    intro e he
    rw [List.append_nil, List.mem_reverse]
    exact horder.mem_iff.mpr (List.mem_map_of_mem he)
  have hrun {step : Sheet → Position → Except Error Sheet}
      (hstep : ∀ ps, ∀ p ∈ order,
        step (s.refreshOnly limit ps) p = .ok (s.refreshOnly limit (p :: ps))) :
      order.foldlM step s = .ok (s.recalculate limit) := by
    have hfold := foldlM_refreshOnly hstep []
    rw [refreshOnly_nil, refreshOnly_of_forall hall] at hfold
    exact hfold
  refine ⟨hrun fun ps p hp => ?_, ?_, recalculate_recalculate s limit⟩
  · obtain ⟨c, hcell, hc⟩ := hformula p hp
    exact visit_refreshOnly hs hcell hc
  · rw [List.foldlM_map]
    refine hrun fun ps p hp => ?_
    obtain ⟨c, hcell, hc⟩ := hformula p hp
    rw [inputAt_of_cell? hcell]
    exact setDisplay_refreshOnly hs hcell hc

/-- A sheet whose two formulas refer to each other. -/
def circle : Sheet :=
  ⟨"Sheet1", 1, 2, [(⟨0, 0⟩, .ofInput "=B1"), (⟨0, 1⟩, .ofInput "=A1")]⟩

theorem reachable_circle : Reachable circle := by
  have hfirst : (new 1 2).setInput ⟨0, 0⟩ "=B1" =
      .ok ⟨"Sheet1", 1, 2, [(⟨0, 0⟩, .ofInput "=B1")]⟩ := rfl
  have hsecond : Sheet.setInput ⟨"Sheet1", 1, 2, [(⟨0, 0⟩, .ofInput "=B1")]⟩ ⟨0, 1⟩ "=A1" =
      .ok circle := rfl
  exact .setInput (.setInput (.new 1 2) hfirst) hsecond

/-- The order in which the circle is visited does not matter. -/
theorem recalculate_circle_order :
    [(⟨0, 1⟩ : Position), ⟨0, 0⟩].foldlM (visit 64) circle = .ok (circle.recalculate 64) ∧
      (circle.recalculate 64).recalculate 64 = circle.recalculate 64 := by
  have horder : [(⟨0, 1⟩ : Position), ⟨0, 0⟩].Perm (circle.formulas.map Prod.fst) :=
    List.Perm.swap (⟨0, 0⟩ : Position) ⟨0, 1⟩ []
  obtain ⟨hvisits, -, hagain⟩ := recalculate_order reachable_circle 64 horder
  exact ⟨hvisits, hagain⟩

end Sheet

end Spreadsheet
