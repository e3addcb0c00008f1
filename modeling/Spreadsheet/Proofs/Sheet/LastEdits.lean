import Spreadsheet.Proofs.Sheet.Operations

/-!
# The edits that count

While edits are made, formulas may be calculated or not, and each may see cells that later
edits change. A recalculation at the end makes up for all of it: only the last input of
each edited cell counts.

- `Cell.unshown`, `Sheet.typedAt`: a cell apart from the value that its formula shows.
- `recalculate_eq_of_typedAt_eq`: a recalculation replaces all such values.
- `lastInput?`: the last input among edits of a cell.
- `Sheet.Edited`: what edits leave behind, apart from the values that formulas show.
- `typedAt_edit`, `edited_script`: one edit, and a script of edits.
- `recalculate_script_eq`: scripts with the same last inputs come to the same.
-/

namespace Spreadsheet

namespace Cell

/-- The cell without the value that it shows if it holds a formula. -/
def unshown (c : Cell) : Cell := if c.isFormula then ⟨c.input, ""⟩ else c

/-- What an input leaves in a cell, without the value that shows: nothing, if
the input is empty. -/
def ofTyped? (input : String) : Option Cell :=
  if input.isEmpty then none else some (ofInput input).unshown

/-- What a formula shows is left out. -/
theorem unshown_of_isFormula {c : Cell} (h : c.isFormula = true) : c.unshown = ⟨c.input, ""⟩ :=
  if_pos h

theorem unshown_of_not_isFormula {c : Cell} (h : ¬ c.isFormula = true) : c.unshown = c :=
  if_neg h

/-- Nothing is left out of what was typed. -/
theorem unshown_input (c : Cell) : c.unshown.input = c.input := by
  unfold unshown
  split <;> rfl

/-- An input that was typed is found again, and where nothing is found the input is empty. -/
theorem input_ofTyped? (input : String) :
    ((ofTyped? input).map Cell.input).getD "" = input := by
  unfold ofTyped?
  split
  · next hempty => exact (String.isEmpty_iff.mp hempty).symm
  · exact unshown_input _

end Cell

/-- The last input that edits type into the cell at a position, if they edit it at all. -/
def lastInput? (p : Position) (edits : List Edit) : Option String :=
  (edits.filter fun e => e.address.position = p).getLast?.map Edit.input

/-- Later edits of a cell come before earlier ones. -/
theorem lastInput?_cons (p : Position) (e : Edit) (edits : List Edit) :
    lastInput? p (e :: edits) =
      (lastInput? p edits).or (if e.address.position = p then some e.input else none) := by
  unfold lastInput?
  rw [List.filter_cons]
  by_cases he : e.address.position = p
  · rw [if_pos (decide_eq_true he), if_pos he, List.getLast?_cons]
    cases (edits.filter fun e => e.address.position = p).getLast? <;> rfl
  · rw [if_neg (by simpa using he), if_neg he, Option.or_none]

namespace Sheet

/-- The cell at a position, without the value that it shows if it holds a formula. -/
def typedAt (s : Sheet) (p : Position) : Option Cell := (s.cell? p).map Cell.unshown

/-! ## Recalculations -/

section

variable {s t : Sheet} {limit : Nat} {p q : Position}

/-- The input at a position is the one that was typed there. -/
theorem inputAt_eq_typedAt (s : Sheet) (p : Position) :
    s.inputAt p = ((s.typedAt p).map Cell.input).getD "" := by
  unfold inputAt typedAt
  cases s.cell? p with
  | none => rfl
  | some c => exact (Cell.unshown_input c).symm

/-- Calculating a formula changes nothing that was typed. -/
theorem unshown_refresh (s : Sheet) (limit : Nat) (c : Cell) :
    (s.refresh limit c).unshown = c.unshown := by
  by_cases hc : c.isFormula = true
  · rw [Cell.unshown_of_isFormula hc,
      Cell.unshown_of_isFormula ((isFormula_refresh s limit c).trans hc), refresh_input]
  · rw [refresh_of_not_isFormula hc]

/-- A cell that is calculated again shows the same whatever it showed before. -/
theorem refresh_unshown (s : Sheet) (limit : Nat) (c : Cell) :
    s.refresh limit c.unshown = s.refresh limit c := by
  by_cases hc : c.isFormula = true
  · rw [Cell.unshown_of_isFormula hc, refresh_of_isFormula hc]
    exact refresh_of_isFormula (c := ⟨c.input, ""⟩) hc
  · rw [Cell.unshown_of_not_isFormula hc]

/-- Nor does a recalculation. -/
theorem typedAt_recalculate (s : Sheet) (limit : Nat) (p : Position) :
    (s.recalculate limit).typedAt p = s.typedAt p := by
  unfold typedAt
  rw [cell?_recalculate]
  cases s.cell? p with
  | none => rfl
  | some c => exact congrArg some (unshown_refresh s limit c)

/-- A recalculation leaves nothing of the values that were shown before. -/
theorem recalculate_eq_of_typedAt_eq (hs : s.WellFormed) (ht : t.WellFormed)
    (hname : s.name = t.name)
    (hrows : s.rows = t.rows) (hcols : s.cols = t.cols)
    (htyped : ∀ p, s.typedAt p = t.typedAt p)
    (limit : Nat) : s.recalculate limit = t.recalculate limit := by
  have hsame : SameInputs s t :=
    ⟨hrows, hcols, fun p => by rw [inputAt_eq_typedAt, inputAt_eq_typedAt, htyped]⟩
  have hrefresh (c : Cell) : s.refresh limit c = t.refresh limit c := by
    unfold refresh
    rw [hsame.displayOf]
  have hcell (u : Sheet) (p : Position) :
      (u.recalculate limit).cell? p = (u.typedAt p).map (u.refresh limit) := by
    unfold typedAt
    rw [cell?_recalculate]
    cases u.cell? p with
    | none => rfl
    | some c => exact congrArg some (refresh_unshown u limit c).symm
  refine eq_of_cell?_eq (hs.recalculate limit)
    (ht.recalculate limit) hname hrows hcols fun p => ?_
  rw [hcell, hcell, htyped, funext hrefresh]

/-! ## Edits -/

/-- What is stored is typed, and blank cells are not kept. -/
theorem typedAt_store (c : Cell) :
    (s.store q c).typedAt p =
      if q = p then (if c.isBlank then none else some c.unshown) else s.typedAt p := by
  unfold typedAt
  rw [cell?_store]
  by_cases hq : q = p
  · rw [if_pos hq, if_pos hq]
    split <;> rfl
  · rw [if_neg hq, if_neg hq]

/-- An input replaces what was typed at its position and nothing else. -/
theorem typedAt_setInput {input : String} (h : s.setInput p input = .ok t) (q : Position) :
    t.typedAt q = if p = q then Cell.ofTyped? input else s.typedAt q := by
  obtain ⟨-, rfl⟩ := setInput_eq_ok_iff.mp h
  rw [typedAt_store, Cell.isBlank_ofInput]
  rfl

/-- An input is found where it was typed, also if it is empty and nothing is kept. -/
theorem inputAt_setInput {input : String} (h : s.setInput p input = .ok t) :
    t.inputAt p = input := by
  rw [inputAt_eq_typedAt, typedAt_setInput h, if_pos rfl, Cell.input_ofTyped?]

/-- A value that shows leaves nothing in a cell but what its input leaves there. -/
theorem unshown_displayOf (s : Sheet) (limit : Nat) (input : String) :
    (if (⟨input, s.displayOf limit input⟩ : Cell).isBlank then none
      else some (⟨input, s.displayOf limit input⟩ : Cell).unshown) = Cell.ofTyped? input := by
  rw [isBlank_displayOf, ← refresh_ofInput, unshown_refresh]
  rfl

/-- An edit changes what is typed into its cell; in other cells at most the
values of formulas change. -/
theorem typedAt_edit {mode : EditMode} {input shown : String}
    (h : s.edit mode p input = .ok (t, shown)) (q : Position) :
    t.typedAt q = if p = q then Cell.ofTyped? input else s.typedAt q := by
  obtain ⟨typed, htyped, ⟨-, rfl⟩ | ⟨-, ht⟩, -⟩ := edit_eq_ok_iff.mp h
  · rw [typedAt_recalculate, typedAt_setInput htyped]
  · obtain ⟨-, rfl⟩ := setDisplay_eq_ok_iff.mp ht
    rw [typedAt_store, inputAt_setInput htyped, unshown_displayOf, typedAt_setInput htyped]
    by_cases hq : p = q
    · rw [if_pos hq, if_pos hq]
    · rw [if_neg hq, if_neg hq]

end

/-! ## Scripts -/

/-- The sheet that edits leave behind, apart from the values that formulas show. -/
structure Edited (s : Sheet) (edits : List Edit) (t : Sheet) : Prop where
  wellFormed : t.WellFormed
  name : t.name = s.name
  rows : t.rows = s.rows
  cols : t.cols = s.cols
  /-- An edited cell has its last input, and any other cell what it had before. -/
  cells : ∀ p, t.typedAt p = (lastInput? p edits).elim (s.typedAt p) Cell.ofTyped?

section

variable {s t u : Sheet} {edits : List Edit}

theorem edited_nil (hs : s.WellFormed) : Edited s [] s := ⟨hs, rfl, rfl, rfl, fun _ => rfl⟩

/-- An edit comes before the edits after it, which may replace its input. -/
theorem Edited.cons {mode : EditMode} {e : Edit} {shown : String}
    (he : s.edit mode e.address.position e.input = .ok (u, shown)) (h : Edited u edits t) :
    Edited s (e :: edits) t := by
  obtain ⟨hname, hrows, hcols⟩ := edit_frame he
  refine ⟨h.wellFormed, h.name.trans hname, h.rows.trans hrows, h.cols.trans hcols, fun p => ?_⟩
  rw [h.cells, lastInput?_cons, typedAt_edit he]
  cases lastInput? p edits with
  | some input => rfl
  | none =>
    by_cases hp : e.address.position = p
    · rw [if_pos hp, if_pos hp]
      rfl
    · rw [if_neg hp, if_neg hp]
      rfl

/-- A script whose edits are all in the grid is carried out to its end. -/
theorem edited_script (hs : s.WellFormed) (mode : EditMode)
    (hinside : ∀ e ∈ edits, s.contains e.address.position = true) :
    ∃ t shown, Script.apply s mode edits = (t, .ok shown) ∧ Edited s edits t := by
  induction edits generalizing s with
  | nil => exact ⟨s, [], rfl, edited_nil hs⟩
  | cons e edits ih =>
    obtain ⟨u, shown, he⟩ := exists_edit_eq_ok (hinside e List.mem_cons_self) mode e.input
    have hrest : ∀ f ∈ edits, u.contains f.address.position = true := fun f hf =>
      (contains_edit he _).trans (hinside f (List.mem_cons_of_mem e hf))
    obtain ⟨t, shownAfter, happly, ht⟩ := ih (hs.edit he) hrest
    refine ⟨t, shown :: shownAfter, ?_, ht.cons he⟩
    rw [Script.apply, he]
    dsimp only
    rw [happly]
    rfl

/-- Two scripts with the same last inputs lead to the same sheet, once all
formulas are calculated. -/
theorem Edited.recalculate_eq {edits' : List Edit} {t' : Sheet} (h : Edited s edits t)
    (h' : Edited s edits' t') (hlast : ∀ p, lastInput? p edits = lastInput? p edits')
    (limit : Nat) : t.recalculate limit = t'.recalculate limit := by
  refine recalculate_eq_of_typedAt_eq h.wellFormed h'.wellFormed (h.name.trans h'.name.symm)
    (h.rows.trans h'.rows.symm) (h.cols.trans h'.cols.symm) (fun p => ?_) limit
  rw [h.cells, h'.cells, hlast]

end

/-- Two scripts whose edits are in the grid of a reachable sheet, which edit the same cells and
type the same last input into each, are both carried out, in any order of the edits, with any
earlier edits and calculating in any way. A recalculation then makes the two sheets equal. -/
theorem recalculate_script_eq {s : Sheet} (h : Reachable s)
    (mode mode' : EditMode) (limit : Nat)
    {edits edits' : List Edit} (hinside : ∀ e ∈ edits, s.contains e.address.position = true)
    (hinside' : ∀ e ∈ edits', s.contains e.address.position = true)
    (hlast : ∀ p, lastInput? p edits = lastInput? p edits') :
    ∃ t t' shown shown', Script.apply s mode edits = (t, .ok shown) ∧
      Script.apply s mode' edits' = (t', .ok shown') ∧
      t.recalculate limit = t'.recalculate limit := by
  obtain ⟨t, shown, happly, ht⟩ := edited_script h.wellFormed mode hinside
  obtain ⟨t', shown', happly', ht'⟩ := edited_script h.wellFormed mode' hinside'
  exact ⟨t, t', shown, shown', happly, happly', ht.recalculate_eq ht' hlast limit⟩

/-- Types `words` into `A1` and refers to it in `B1`. -/
def wordsInA1 : List Edit :=
  [⟨1, .ofPosition ⟨0, 0⟩, "words"⟩, ⟨2, .ofPosition ⟨0, 1⟩, "=A1"⟩]

/-- Refers to `A1` in `B1` before `words` replaces a formula in `A1`. -/
def wordsInA1AtLast : List Edit :=
  [⟨1, .ofPosition ⟨0, 0⟩, "=B1"⟩, ⟨2, .ofPosition ⟨0, 1⟩, "=A1"⟩,
    ⟨3, .ofPosition ⟨0, 0⟩, "words"⟩]

theorem lastInput?_wordsInA1 (p : Position) :
    lastInput? p wordsInA1 = lastInput? p wordsInA1AtLast := by
  by_cases hA1 : (⟨0, 0⟩ : Position) = p
  · subst hA1
    rfl
  · by_cases hB1 : (⟨0, 1⟩ : Position) = p
    · subst hB1
      rfl
    · simp [lastInput?, wordsInA1, wordsInA1AtLast, hA1, hB1]

theorem recalculate_wordsInA1 :
    (∀ p, lastInput? p wordsInA1 = lastInput? p wordsInA1AtLast) ∧
      ∃ t t' shown shown', Script.apply (new 1 2) .usual wordsInA1 = (t, .ok shown) ∧
        Script.apply (new 1 2) ⟨2, true⟩ wordsInA1AtLast = (t', .ok shown') ∧
        t.recalculate 64 = t'.recalculate 64 :=
  ⟨lastInput?_wordsInA1,
    recalculate_script_eq (.new 1 2) .usual ⟨2, true⟩ 64 (by decide) (by decide)
      lastInput?_wordsInA1⟩

end Sheet

end Spreadsheet
