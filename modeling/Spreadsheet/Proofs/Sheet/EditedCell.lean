import Spreadsheet.Proofs.Sheet.InPlace

/-!
# The cell of an edit

After an edit the edited cell holds the input and shows what it is worth on the sheet as it then
is, or nothing is kept there if the input is empty. Whether the edit calculates this one input
or all formulas makes no difference to that cell.

- `sameInputs_of_edit`: once the input is typed, no edit changes anything that is typed.
- `cell?_edit`, `shown_edit`: the edited cell and the text that an edit returns, in either mode.
- `cell?_edit_of_ne`: an edit that calculates one input leaves all other cells.
- `edit_edit`: the same edit made again changes nothing.
- `recalculate_edit`: a recalculation after an edit is one of the sheet into
  which the input was typed.
- `edit_one_cell`, `edit_recalculates`: what the two kinds of edit do, and that they
  differ by a recalculation.
-/

namespace Spreadsheet

namespace Sheet

open Formula

variable {s t typed : Sheet} {p : Position} {mode : EditMode} {limit : Nat}
  {input shown : String}

/-! ## What is typed -/

/-- Neither the values that show afterwards nor a recalculation change an input. -/
theorem sameInputs_of_edit (htyped : s.setInput p input = .ok typed)
    (h : s.edit mode p input = .ok (t, shown)) : SameInputs t typed := by
  obtain ⟨-, hrows, hcols⟩ := edit_frame h
  obtain ⟨-, rfl⟩ := setInput_eq_ok_iff.mp htyped
  refine ⟨hrows, hcols, fun q => ?_⟩
  rw [inputAt_eq_typedAt, inputAt_eq_typedAt, typedAt_edit h, typedAt_setInput htyped]

/-- The same edit made again leaves the same inputs. -/
theorem sameInputs_edit_edit {t' : Sheet} {shown' : String}
    (h : s.edit mode p input = .ok (t, shown))
    (h' : t.edit mode p input = .ok (t', shown')) : SameInputs t' t := by
  obtain ⟨-, hrows, hcols⟩ := edit_frame h'
  refine ⟨hrows, hcols, fun q => ?_⟩
  rw [inputAt_eq_typedAt, inputAt_eq_typedAt, typedAt_edit h', typedAt_edit h]
  by_cases hq : p = q
  · rw [if_pos hq, if_pos hq]
  · rw [if_neg hq, if_neg hq]

/-! ## The edited cell -/

theorem cell?_edit (h : s.edit mode p input = .ok (t, shown)) :
    t.cell? p = if input.isEmpty then none else some ⟨input, t.displayOf mode.limit input⟩ := by
  obtain ⟨typed, htyped, hthen, -⟩ := edit_eq_ok_iff.mp h
  rw [(sameInputs_of_edit htyped h).displayOf]
  rcases hthen with ⟨-, rfl⟩ | ⟨-, ht⟩
  · obtain ⟨-, rfl⟩ := setInput_eq_ok_iff.mp htyped
    rw [cell?_recalculate, cell?_store, if_pos rfl, Cell.isBlank_ofInput, ← refresh_ofInput]
    split <;> rfl
  · obtain ⟨-, rfl⟩ := setDisplay_eq_ok_iff.mp ht
    rw [cell?_store, if_pos rfl, inputAt_setInput htyped, isBlank_displayOf]

theorem shown_edit (h : s.edit mode p input = .ok (t, shown)) :
    shown = t.displayOf mode.limit input := by
  obtain ⟨-, -, -, rfl⟩ := edit_eq_ok_iff.mp h
  rw [displayAt, cell?_edit h]
  split
  · next hempty =>
    -- nothing is kept, and an empty input is worth nothing
    rw [String.isEmpty_iff.mp hempty]
    exact (displayOf_literal t mode.limit rfl).symm
  · rfl

/-! ## The other cells -/

theorem cell?_edit_of_ne (h : s.edit ⟨limit, false⟩ p input = .ok (t, shown)) {q : Position}
    (hq : q ≠ p) : t.cell? q = s.cell? q := by
  obtain ⟨typed, htyped, ⟨hmode, -⟩ | ⟨-, ht⟩, -⟩ := edit_eq_ok_iff.mp h
  · cases hmode
  · obtain ⟨-, rfl⟩ := setDisplay_eq_ok_iff.mp ht
    obtain ⟨-, rfl⟩ := setInput_eq_ok_iff.mp htyped
    rw [cell?_store, if_neg hq.symm, cell?_store, if_neg hq.symm]

/-! ## Edits made again -/

/-- The same edit made again finds its own input typed already, and comes to the same value. -/
theorem edit_edit (hs : s.WellFormed) (h : s.edit ⟨limit, false⟩ p input = .ok (t, shown)) :
    t.edit ⟨limit, false⟩ p input = .ok (t, shown) := by
  obtain ⟨typed, htyped, -⟩ := edit_eq_ok_iff.mp h
  have hp : t.contains p = true := (contains_edit h p).trans (setInput_eq_ok_iff.mp htyped).1
  obtain ⟨t', shown', h'⟩ := exists_edit_eq_ok hp ⟨limit, false⟩ input
  have hsame : SameInputs t' t := sameInputs_edit_edit h h'
  obtain ⟨hname, hrows, hcols⟩ := edit_frame h'
  have ht : t' = t := by
    refine eq_of_cell?_eq ((hs.edit h).edit h') (hs.edit h) hname hrows hcols fun q => ?_
    by_cases hq : q = p
    · rw [hq, cell?_edit h', cell?_edit h, hsame.displayOf]
    · exact cell?_edit_of_ne h' hq
  rw [h', shown_edit h', shown_edit h, ht]

/-! ## The two kinds of edit -/

/-- A recalculation makes up for what an edit did not calculate. -/
theorem recalculate_edit (hs : s.WellFormed) (htyped : s.setInput p input = .ok typed)
    (h : s.edit mode p input = .ok (t, shown)) (limit : Nat) :
    t.recalculate limit = typed.recalculate limit := by
  obtain ⟨hname, hrows, hcols⟩ := edit_frame h
  refine recalculate_eq_of_typedAt_eq (hs.edit h) (hs.setInput htyped) ?_ ?_ ?_
    (fun q => ?_) limit
  · obtain ⟨-, rfl⟩ := setInput_eq_ok_iff.mp htyped
    exact hname
  · exact (sameInputs_of_edit htyped h).rows
  · exact (sameInputs_of_edit htyped h).cols
  · rw [typedAt_edit h, typedAt_setInput htyped]

/-- An edit that calculates all formulas comes to one that calculates a single
input and a recalculation. -/
theorem edit_true_eq (hs : s.WellFormed) (limit : Nat) (p : Position) (input : String) :
    s.edit ⟨limit, true⟩ p input =
      (s.edit ⟨limit, false⟩ p input).map fun result =>
        (result.1.recalculate limit, result.2) := by
  cases h : s.edit ⟨limit, false⟩ p input with
  | error e => exact edit_eq_error_iff.mpr (edit_eq_error_iff.mp h)
  | ok result =>
    obtain ⟨t, shown⟩ := result
    obtain ⟨typed, htyped, -⟩ := edit_eq_ok_iff.mp h
    have hfull : s.edit ⟨limit, true⟩ p input =
        .ok (typed.recalculate limit, (typed.recalculate limit).displayAt p) :=
      edit_eq_ok_iff.mpr ⟨typed, htyped, .inl ⟨rfl, rfl⟩, rfl⟩
    -- both edits return what the input is worth where it was typed
    have hshown : (typed.recalculate limit).displayAt p = shown := by
      rw [shown_edit hfull, shown_edit h, (sameInputs_of_edit htyped hfull).displayOf,
        (sameInputs_of_edit htyped h).displayOf]
    rw [hfull, hshown, ← recalculate_edit hs htyped h limit]
    rfl

/-- An edit in the grid of a reachable sheet that calculates its own input only is made, and
changes one cell. If the input is empty, nothing is kept there; otherwise the cell holds the
input and shows what it is worth on the sheet after the edit, which for a literal is the input
itself. The edit returns what the cell shows, and made again it changes nothing. Made in place,
step by step, it comes to the same. -/
theorem edit_one_cell {s : Sheet} (h : Reachable s) {p : Position}
    (hp : s.contains p = true) (limit : Nat) (input : String) :
    ∃ t shown, s.edit ⟨limit, false⟩ p input = .ok (t, shown) ∧
      (t.name = s.name ∧ t.rows = s.rows ∧ t.cols = s.cols) ∧
      (∀ q, q ≠ p → t.cell? q = s.cell? q) ∧
      (input = "" → t.cell? p = none) ∧
      (input ≠ "" → t.cell? p = some ⟨input, t.displayOf limit input⟩) ∧
      (input.toList.head? ≠ some '=' → t.displayOf limit input = input) ∧
      shown = ((t.cell? p).map Cell.display).getD "" ∧
      t.edit ⟨limit, false⟩ p input = .ok (t, shown) ∧
      (InPlace.edit ⟨limit, false⟩ p input).on s = (.ok shown, t) := by
  obtain ⟨t, shown, hedit⟩ := exists_edit_eq_ok hp ⟨limit, false⟩ input
  have hcell := cell?_edit hedit
  refine ⟨t, shown, hedit, edit_frame hedit, fun q hq => cell?_edit_of_ne hedit hq,
    ?_, ?_, ?_, ?_, edit_edit h.wellFormed hedit, ?_⟩
  · rintro rfl
    exact hcell
  · intro hinput
    rw [hcell, if_neg (by simpa using hinput)]
  · intro hhead
    have hliteral : ¬ (Cell.ofInput input).isFormula = true := mt Cell.isFormula_iff.mp hhead
    exact displayOf_literal t limit (Cell.body_eq_none hliteral)
  · obtain ⟨-, -, -, hshown⟩ := edit_eq_ok_iff.mp hedit
    exact hshown
  · rw [InPlace.on_edit h.wellFormed, hedit]
    rfl

/-- A formula that refers to its own cell reads itself there, and stays when it
is typed again. -/
theorem edit_one_cell_circle : circle.contains ⟨0, 0⟩ = true ∧
    ∃ t shown, circle.edit ⟨64, false⟩ ⟨0, 0⟩ "=A1" = .ok (t, shown) ∧
      t.cell? ⟨0, 1⟩ = circle.cell? ⟨0, 1⟩ ∧
      t.cell? ⟨0, 0⟩ = some ⟨"=A1", t.displayOf 64 "=A1"⟩ ∧
      t.edit ⟨64, false⟩ ⟨0, 0⟩ "=A1" = .ok (t, shown) := by
  have hinside : circle.contains ⟨0, 0⟩ = true := by decide
  obtain ⟨t, shown, hedit, -, hothers, -, hcell, -, -, hagain, -⟩ :=
    edit_one_cell reachable_circle hinside 64 "=A1"
  exact ⟨hinside, t, shown, hedit, hothers ⟨0, 1⟩ (by decide), hcell (by decide), hagain⟩

/-- For a reachable sheet, the two kinds of edit return the same text or are refused for
the same reason. One that calculates all formulas leaves the sheet that the other one
and a recalculation leave. The same holds when the sheet is changed in place, where each
step could be refused. -/
theorem edit_recalculates {s : Sheet} (h : Reachable s) (limit : Nat) (p : Position)
    (input : String) :
    (s.edit ⟨limit, true⟩ p input).map Prod.snd = (s.edit ⟨limit, false⟩ p input).map Prod.snd ∧
    s.edit ⟨limit, true⟩ p input =
      (s.edit ⟨limit, false⟩ p input).map
        (fun result => (result.1.recalculate limit, result.2)) ∧
    (InPlace.edit ⟨limit, true⟩ p input).on s =
      InPlace.on (do
        let shown ← InPlace.edit ⟨limit, false⟩ p input
        InPlace.recalculate limit
        return shown) s := by
  have hs : s.WellFormed := h.wellFormed
  have hedit := edit_true_eq hs limit p input
  refine ⟨?_, hedit, ?_⟩
  · rw [hedit]
    cases s.edit ⟨limit, false⟩ p input <;> rfl
  · rw [InPlace.on_edit hs, hedit, InPlace.on_bind, InPlace.on_edit hs]
    cases hplain : s.edit ⟨limit, false⟩ p input with
    | error e => rfl
    | ok result =>
      obtain ⟨t, shown⟩ := result
      dsimp only [InPlace.whole]
      rw [InPlace.on_bind, InPlace.on_recalculate (hs.edit hplain)]
      rfl

/-- A number typed into `B1` breaks the circle. -/
theorem edit_recalculates_circle :
    (circle.edit ⟨64, true⟩ ⟨0, 1⟩ "2").map Prod.snd =
      (circle.edit ⟨64, false⟩ ⟨0, 1⟩ "2").map Prod.snd ∧
    circle.edit ⟨64, true⟩ ⟨0, 1⟩ "2" =
      (circle.edit ⟨64, false⟩ ⟨0, 1⟩ "2").map
        (fun result => (result.1.recalculate 64, result.2)) := by
  obtain ⟨hshown, hedit, -⟩ := edit_recalculates reachable_circle 64 ⟨0, 1⟩ "2"
  exact ⟨hshown, hedit⟩

end Sheet

end Spreadsheet
