import Mathlib.Data.Set.Card
import Spreadsheet.Proofs.Sheet.InPlace

/-!
# What a recalculation counts

A recalculation goes through the formulas, counts them and keeps the values to show; it shows
them when all are calculated. Nothing of this can be refused, and the counts are those of the
sheet, before and after.

- `Sheet.formulaPositions`, `Sheet.faultPositions`: where formulas were typed, and
  where they have a fault.
- `ncard_positions`: how many positions there are with cells of a kind.
- `InPlace.Progress`, `InPlace.recount`: the calculation of the formulas, one after
  the other, and all of it.
- `calculate_of_isFormula`, `foldl_calculate`: one formula, and a run of them.
- `Sheet.Recalculated`: what a recalculation leaves behind.
- `recount_recalculates`: it is always carried out.
-/

namespace Spreadsheet

namespace Sheet

open Formula

variable {s : Sheet} {limit : Nat} {p : Position} {c : Cell}

/-! ## Positions -/

/-- Where a formula was typed. -/
def formulaPositions (s : Sheet) : Set Position :=
  {p | ∃ c, s.cell? p = some c ∧ c.input.toList.head? = some '='}

/-- Where a formula has a fault in place of a value. -/
def faultPositions (s : Sheet) (limit : Nat) : Set Position :=
  {p | ∃ c formula fault, s.cell? p = some c ∧ formulaBody? c.input = some formula ∧
    s.valueOf limit formula = .error fault}

/-- Each position is kept once, so that cells and their positions are as many. -/
theorem ncard_positions (hs : s.WellFormed) (kind : Cell → Bool) :
    {p | ∃ c, s.cell? p = some c ∧ kind c = true}.ncard =
      s.entries.countP fun e => kind e.2 := by
  have hset : {p | ∃ c, s.cell? p = some c ∧ kind c = true} =
      ((s.entries.filter fun e => kind e.2).map Prod.fst).toFinset := by
    ext p
    rw [Set.mem_ofPred_eq, Finset.mem_coe, List.mem_toFinset, List.mem_map]
    constructor
    · rintro ⟨c, hc, hkind⟩
      exact ⟨(p, c), List.mem_filter.mpr ⟨Entries.mem_of_find?_eq_some hc, hkind⟩, rfl⟩
    · rintro ⟨⟨_, c⟩, he, rfl⟩
      obtain ⟨hmem, hkind⟩ := List.mem_filter.mp he
      exact ⟨c, (Entries.find?_eq_some_iff hs.ordered).mpr hmem, hkind⟩
  have hnodup : ((s.entries.filter fun e => kind e.2).map Prod.fst).Nodup :=
    hs.ordered.nodup_positions.sublist (List.filter_sublist.map Prod.fst)
  rw [hset, Set.ncard_coe_finset, List.toFinset_card_of_nodup hnodup, List.length_map,
    List.countP_eq_length_filter]

theorem isFaulty_iff : s.isFaulty limit c = true ↔
    ∃ formula fault, formulaBody? c.input = some formula ∧
      s.valueOf limit formula = .error fault := by
  unfold isFaulty
  cases formulaBody? c.input with
  | none => exact ⟨nofun, nofun⟩
  | some formula =>
    dsimp only
    cases hvalue : s.valueOf limit formula with
    | ok v =>
      constructor
      · nofun
      · rintro ⟨_, fault, h, hfault⟩
        cases h
        cases hvalue.symm.trans hfault
    | error fault => exact ⟨fun _ => ⟨formula, fault, rfl, hvalue⟩, fun _ => rfl⟩

/-- Only a formula can have a fault. -/
theorem isFormula_of_isFaulty (h : s.isFaulty limit c = true) : c.isFormula = true := by
  obtain ⟨formula, fault, hformula, -⟩ := isFaulty_iff.mp h
  exact Cell.isFormula_of_body hformula

theorem ncard_formulaPositions (hs : s.WellFormed) :
    s.formulaPositions.ncard = s.formulas.length := by
  unfold formulaPositions formulas
  rw [← List.countP_eq_length_filter, ← ncard_positions hs]
  simp only [Cell.isFormula_iff]

theorem ncard_faultPositions (hs : s.WellFormed) (limit : Nat) :
    (s.faultPositions limit).ncard = s.entries.countP fun e => s.isFaulty limit e.2 := by
  rw [← ncard_positions hs]
  refine congrArg Set.ncard (Set.ext fun p => ?_)
  constructor
  · rintro ⟨c, formula, fault, hc, hfault⟩
    exact ⟨c, hc, isFaulty_iff.mpr ⟨formula, fault, hfault⟩⟩
  · rintro ⟨c, hc, hfaulty⟩
    obtain ⟨formula, fault, hfault⟩ := isFaulty_iff.mp hfaulty
    exact ⟨c, formula, fault, hc, hfault⟩

/-- Only formulas have faults, so that it is enough to look for faults among them. -/
theorem countP_formulas (s : Sheet) (limit : Nat) :
    (s.formulas.countP fun e => s.isFaulty limit e.2) =
      s.entries.countP fun e => s.isFaulty limit e.2 := by
  unfold formulas
  rw [List.countP_filter]
  refine List.countP_congr fun e _ => ?_
  rw [Bool.and_eq_true]
  exact ⟨And.left, fun h => ⟨h, isFormula_of_isFaulty h⟩⟩

/-! ## Counting -/

namespace InPlace

/-- What a recalculation has counted so far, and the values that it is going to show. -/
structure Progress where
  tally : Tally
  shown : List (Position × String)

/-- Counts one more cell, and calculates the formula in it. A cell without one
would be passed over. -/
def Progress.calculate (s : Sheet) (limit : Nat) (done : Progress) (e : Position × Cell) :
    Progress :=
  let counted : Tally := { done.tally with formulas := done.tally.formulas + 1 }
  match formulaBody? e.2.input with
  | none => { done with tally := counted }
  | some formula =>
    let result := s.valueOf limit formula
    { tally := { counted with
        calculated := counted.calculated + 1
        faults := if result.isOk then counted.faults else counted.faults + 1 }
      shown := done.shown ++ [(e.1, render result)] }

/-- Calculates the formulas one after the other, shows their values, and returns
what was counted. -/
def recount (limit : Nat) : InPlace Error Tally := do
  let s ← get
  let done := s.formulas.foldl (Progress.calculate s limit) ⟨⟨0, 0, 0⟩, []⟩
  forM done.shown fun w => setDisplay w.1 w.2
  return done.tally

/-- No formula is passed over: it is counted, calculated and shown. -/
theorem calculate_of_isFormula {e : Position × Cell} (he : e.2.isFormula = true)
    (done : Progress) :
    done.calculate s limit e =
      ⟨⟨done.tally.formulas + 1, done.tally.calculated + 1,
          done.tally.faults + if s.isFaulty limit e.2 then 1 else 0⟩,
        done.shown ++ [(e.1, s.displayOf limit e.2.input)]⟩ := by
  obtain ⟨formula, hformula⟩ := Option.isSome_iff_exists.mp he
  have hfaulty : s.isFaulty limit e.2 = !(s.valueOf limit formula).isOk := by
    rw [isFaulty, hformula]
  rw [displayOf_formula s limit hformula, hfaulty]
  unfold Progress.calculate
  rw [hformula]
  dsimp only
  cases (s.valueOf limit formula).isOk <;> rfl

theorem foldl_calculate {es : Entries} (hes : ∀ e ∈ es, e.2.isFormula = true)
    (done : Progress) :
    es.foldl (Progress.calculate s limit) done =
      ⟨⟨done.tally.formulas + es.length, done.tally.calculated + es.length,
          done.tally.faults + es.countP fun e => s.isFaulty limit e.2⟩,
        done.shown ++ es.map fun e => (e.1, s.displayOf limit e.2.input)⟩ := by
  induction es generalizing done with
  | nil => simp
  | cons e es ih =>
    rw [List.foldl_cons, calculate_of_isFormula (hes e List.mem_cons_self),
      ih fun f hf => hes f (List.mem_cons_of_mem e hf)]
    simp only [List.length_cons, List.countP_cons, List.map_cons, List.append_assoc,
      List.singleton_append, Progress.mk.injEq, Tally.mk.injEq, and_true]
    omega

/-- What is counted is the tally of the sheet, and what is left behind is the sheet
with all values shown. -/
theorem on_recount (hs : s.WellFormed) (limit : Nat) :
    (recount limit).on s = (.ok (s.tally limit), s.recalculate limit) := by
  have hformulas : ∀ e ∈ s.formulas, e.2.isFormula = true :=
    fun e he => (List.mem_filter.mp he).2
  have hdone : s.formulas.foldl (Progress.calculate s limit) ⟨⟨0, 0, 0⟩, []⟩ =
      ⟨s.tally limit, s.formulas.map fun e => (e.1, s.displayOf limit e.2.input)⟩ := by
    rw [foldl_calculate hformulas, countP_formulas]
    simp only [Nat.zero_add, List.nil_append]
    rfl
  unfold recount
  rw [on_bind, on_get]
  dsimp only
  rw [hdone, on_bind, on_forM_setDisplay (foldlM_setDisplay_formulas hs limit)]
  rfl

end InPlace

/-! ## What is left behind -/

/-- What a recalculation leaves behind and what it counts. -/
structure Recalculated (s : Sheet) (limit : Nat) (t : Sheet) (counted : Tally) : Prop where
  frame : t.name = s.name ∧ t.rows = s.rows ∧ t.cols = s.cols
  /-- The same cells are kept, with the same inputs. -/
  inputs : ∀ p, (t.cell? p).map Cell.input = (s.cell? p).map Cell.input
  /-- Nothing changes in a cell without a formula. -/
  others : ∀ p c, s.cell? p = some c → c.input.toList.head? ≠ some '=' → t.cell? p = some c
  formulas : counted.formulas = s.formulaPositions.ncard
  calculated : counted.calculated = s.formulaPositions.ncard
  faults : counted.faults = (s.faultPositions limit).ncard
  /-- The same formulas have faults afterwards. -/
  faultsAfter : t.faultPositions limit = s.faultPositions limit
  showsFault : ∀ p c formula fault, t.cell? p = some c → formulaBody? c.input = some formula →
    t.valueOf limit formula = .error fault → c.display = "ERROR: " ++ fault.message
  showsValue : ∀ p c formula v, t.cell? p = some c → formulaBody? c.input = some formula →
    t.valueOf limit formula = .ok v → c.display = v.display

theorem cell?_recalculate_eq_some_iff {limit : Nat} :
    (s.recalculate limit).cell? p = some c ↔
      ∃ d, s.cell? p = some d ∧ s.refresh limit d = c := by
  rw [cell?_recalculate, Option.map_eq_some_iff]

/-- Which formulas have faults does not depend on what is shown. -/
theorem faultPositions_recalculate (s : Sheet) (limit : Nat) :
    (s.recalculate limit).faultPositions limit = s.faultPositions limit := by
  have hvalue := (sameInputs_recalculate s limit).valueOf limit
  ext p
  constructor
  · rintro ⟨c, formula, fault, hc, hformula, hfault⟩
    obtain ⟨d, hd, rfl⟩ := cell?_recalculate_eq_some_iff.mp hc
    rw [refresh_input] at hformula
    exact ⟨d, formula, fault, hd, hformula, (hvalue formula).symm.trans hfault⟩
  · rintro ⟨d, formula, fault, hd, hformula, hfault⟩
    refine ⟨s.refresh limit d, formula, fault,
      cell?_recalculate_eq_some_iff.mpr ⟨d, hd, rfl⟩, ?_, (hvalue formula).trans hfault⟩
    rw [refresh_input]
    exact hformula

/-- A formula shows what it is worth on the sheet on which it shows it. -/
theorem display_recalculate {formula : String} (hc : (s.recalculate limit).cell? p = some c)
    (hformula : formulaBody? c.input = some formula) :
    c.display = render ((s.recalculate limit).valueOf limit formula) := by
  obtain ⟨d, -, rfl⟩ := cell?_recalculate_eq_some_iff.mp hc
  rw [refresh_input] at hformula
  rw [refresh_of_isFormula (Cell.isFormula_of_body hformula),
    displayOf_formula s limit hformula, (sameInputs_recalculate s limit).valueOf]

theorem recalculated_recalculate (hs : s.WellFormed) (limit : Nat) :
    Recalculated s limit (s.recalculate limit) (s.tally limit) where
  frame := ⟨rfl, rfl, rfl⟩
  inputs p := by
    rw [cell?_recalculate, Option.map_map]
    exact congrArg (fun f => Option.map f (s.cell? p)) (funext (refresh_input s limit))
  others p c hc hhead :=
    cell?_recalculate_eq_some_iff.mpr
      ⟨c, hc, refresh_of_not_isFormula (mt Cell.isFormula_iff.mp hhead)⟩
  formulas := (ncard_formulaPositions hs).symm
  calculated := (ncard_formulaPositions hs).symm
  faults := (ncard_faultPositions hs limit).symm
  faultsAfter := faultPositions_recalculate s limit
  showsFault p c formula fault hc hformula hfault := by
    rw [display_recalculate hc hformula, hfault]
    rfl
  showsValue p c formula v hc hformula hv := by
    rw [display_recalculate hc hformula, hv]
    rfl

/-- No recalculation of a reachable sheet is refused. It changes nothing but what formulas show:
a fault after `ERROR: `, or a value. It counts the formulas that were typed, all of which are
calculated, and those that have faults, which are the same before and after. -/
theorem recount_recalculates {s : Sheet} (h : Reachable s) (limit : Nat) :
    ∃ t counted, (InPlace.recount limit).on s = (.ok counted, t) ∧
      Recalculated s limit t counted ∧
      t = s.recalculate limit ∧ counted = s.tally limit :=
  ⟨_, _, InPlace.on_recount h.wellFormed limit,
    recalculated_recalculate h.wellFormed limit, rfl, rfl⟩

theorem recount_recalculates_circle :
    ∃ t counted, (InPlace.recount 64).on circle = (.ok counted, t) ∧
      Recalculated circle 64 t counted ∧
      t = circle.recalculate 64 ∧ counted = circle.tally 64 :=
  recount_recalculates reachable_circle 64

end Sheet

end Spreadsheet
