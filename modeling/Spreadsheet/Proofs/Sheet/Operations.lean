import Spreadsheet.Proofs.Sheet.Reachable

/-!
# Operations

Whatever is done to a sheet, and in whatever order, the cells that it keeps are in its grid,
hold something and stand in row-major order.

- `Sheet.Operation`, `Sheet.after`, `Sheet.run`: everything that can be done to a sheet, one
  step of it and a run of steps, of which any may be refused.
- `exists_resolve_eq_error_iff`: the addresses that are refused.
- `edit_eq_error_iff`, `editAt_eq_error_iff`: an edit that is refused has changed nothing yet.
- `exists_edit_eq_ok`: an edit in the grid is not refused.
- `unlessRefused_of`, `after_edit_of`: what holds after a change that is made holds
  after one that is refused.
- `Reachable.after`, `Reachable.run`: steps and runs lead from reachable sheets
  to reachable sheets.
- `run_entries`: the cells that are kept after a run.
-/

namespace Spreadsheet

namespace Sheet

/-! ## Changes that are refused -/

section

variable {s t : Sheet} {p : Position} {e : Error}

theorem checkInside_eq_error_iff :
    s.checkInside p = .error e ↔ s.contains p = false ∧ e = .outside p s.rows s.cols := by
  unfold checkInside
  split
  · next h => exact ⟨nofun, fun ⟨hp, _⟩ => absurd (h.symm.trans hp) nofun⟩
  · next h =>
    constructor
    · intro he
      cases he
      exact ⟨by simpa using h, rfl⟩
    · rintro ⟨-, rfl⟩
      rfl

/-- What is only done in the grid is refused outside it. -/
theorem checkInside_then_eq_error_iff {α : Type} {a : α} :
    (s.checkInside p >>= fun _ => .ok a) = .error e ↔
      s.contains p = false ∧ e = .outside p s.rows s.cols := by
  rw [← checkInside_eq_error_iff]
  constructor
  · intro h
    rcases bind_eq_error_iff.mp h with h | ⟨_, _, h⟩
    · exact h
    · cases h
  · intro h
    exact bind_eq_error_iff.mpr (.inl h)

theorem setInput_eq_error_iff {input : String} :
    s.setInput p input = .error e ↔ s.contains p = false ∧ e = .outside p s.rows s.cols :=
  checkInside_then_eq_error_iff

theorem setDisplay_eq_error_iff {display : String} :
    s.setDisplay p display = .error e ↔ s.contains p = false ∧ e = .outside p s.rows s.cols :=
  checkInside_then_eq_error_iff

/-- An address is refused if it cannot be read, or if its position is outside the grid. -/
theorem exists_resolve_eq_error_iff {a : String} : (∃ e, s.resolve a = .error e) ↔
    (∃ e, Address.parse a = .error e) ∨
      ∃ address, Address.parse a = .ok address ∧ s.contains address.position = false := by
  unfold resolve
  cases Address.parse a with
  | error d => exact ⟨fun _ => .inl ⟨d, rfl⟩, fun _ => ⟨.address d, rfl⟩⟩
  | ok address =>
    show (∃ e, (s.checkInside address.position >>= fun _ => .ok address) = .error e) ↔ _
    rw [exists_congr fun _ => checkInside_then_eq_error_iff]
    constructor
    · rintro ⟨_, houtside, -⟩
      exact .inr ⟨address, rfl, houtside⟩
    · rintro (⟨_, h⟩ | ⟨_, h, houtside⟩)
      · cases h
      · cases h
        exact ⟨_, houtside, rfl⟩

/-- What was typed into the grid can also be shown there. -/
theorem exists_setDisplay {input : String} (htyped : s.setInput p input = .ok t)
    (display : String) : ∃ u, t.setDisplay p display = .ok u := by
  obtain ⟨hp, rfl⟩ := setInput_eq_ok_iff.mp htyped
  exact ⟨_, setDisplay_eq_ok_iff.mpr ⟨hp, rfl⟩⟩

/-- An edit is refused when its first change is, so that it leaves the sheet as it was. -/
theorem edit_eq_error_iff {mode : EditMode} {input : String} :
    s.edit mode p input = .error e ↔ s.contains p = false ∧ e = .outside p s.rows s.cols := by
  constructor
  · intro h
    rcases bind_eq_error_iff.mp h with h | ⟨typed, htyped, h⟩
    · exact setInput_eq_error_iff.mp h
    obtain ⟨u, hu⟩ := exists_setDisplay htyped (typed.displayOf mode.limit input)
    dsimp only at h
    by_cases hmode : mode.recalculates = true
    · rw [if_pos hmode] at h
      cases h
    · rw [if_neg hmode, hu] at h
      cases h
  · intro h
    exact bind_eq_error_iff.mpr (.inl (setInput_eq_error_iff.mpr h))

/-- An edit in the grid is made. -/
theorem exists_edit_eq_ok (hp : s.contains p = true) (mode : EditMode) (input : String) :
    ∃ t shown, s.edit mode p input = .ok (t, shown) := by
  cases h : s.edit mode p input with
  | error e =>
    have houtside := (edit_eq_error_iff.mp h).1
    rw [hp] at houtside
    cases houtside
  | ok result => exact ⟨result.1, result.2, rfl⟩

/-- An address that is accepted is one of a cell in the grid. -/
theorem contains_of_resolve {text : String} {address : Address}
    (h : s.resolve text = .ok address) : s.contains address.position = true :=
  (resolve_eq_ok_iff.mp h).2

/-- An edit at an address is refused when the address is. -/
theorem editAt_eq_error_iff {address input : String} :
    s.editAt address input = .error e ↔ s.resolve address = .error e := by
  constructor
  · intro h
    rcases bind_eq_error_iff.mp h with h | ⟨a, ha, h⟩
    · exact h
    · have houtside := (edit_eq_error_iff.mp h).1
      rw [contains_of_resolve ha] at houtside
      cases houtside
  · intro h
    exact bind_eq_error_iff.mpr (.inl h)

end

/-! ## Steps and runs -/

/-- Everything that can be done to a sheet. -/
inductive Operation where
  | setInput (p : Position) (input : String)
  | setDisplay (p : Position) (display : String)
  | clear (p : Position)
  | resize (rows cols : Nat)
  | rename (name : String)
  | edit (mode : EditMode) (p : Position) (input : String)
  | editAt (address input : String)
  | recalculate (limit : Nat)
  | script (mode : EditMode) (edits : List Edit)

/-- The sheet that a change leads to, or the sheet as it was if the change is refused. -/
def unlessRefused (s : Sheet) : Except Error Sheet → Sheet
  | .ok t => t
  | .error _ => s

/-- The sheet after an operation. Any operation with an argument that does not fit is
refused and leaves the sheet as it was, except that a script keeps what its edits did before
the one that is refused. -/
def after (s : Sheet) : Operation → Sheet
  | .setInput p input => s.unlessRefused (s.setInput p input)
  | .setDisplay p display => s.unlessRefused (s.setDisplay p display)
  | .clear p => s.clear p
  | .resize rows cols => s.resize rows cols
  | .rename name => s.rename name
  | .edit mode p input => s.unlessRefused ((s.edit mode p input).map Prod.fst)
  | .editAt address input => s.unlessRefused ((s.editAt address input).map Prod.fst)
  | .recalculate limit => s.recalculate limit
  | .script mode edits => (Script.apply s mode edits).1

/-- The sheet after operations, one after the other. -/
def run (s : Sheet) (operations : List Operation) : Sheet := operations.foldl after s

theorem reachable_empty (name : String) (rows cols : Nat) : Reachable ⟨name, rows, cols, []⟩ :=
  .rename (.new rows cols) name

section

variable {P : Sheet → Prop} {s : Sheet} (hs : P s)

include hs

/-- What holds before a change and after one that is made also holds after one
that is refused. -/
theorem unlessRefused_of {change : Except Error Sheet} (h : ∀ t, change = .ok t → P t) :
    P (s.unlessRefused change) := by
  cases change with
  | error e => exact hs
  | ok t => exact h t rfl

theorem after_edit_of {mode : EditMode} {p : Position} {input : String}
    (h : ∀ t shown, s.edit mode p input = .ok (t, shown) → P t) :
    P (s.after (.edit mode p input)) := by
  refine unlessRefused_of hs fun t ht => ?_
  obtain ⟨⟨_, shown⟩, hedit, rfl⟩ := map_eq_ok_iff.mp ht
  exact h _ shown hedit

theorem after_editAt_of {address input : String}
    (h : ∀ t shown, s.editAt address input = .ok (t, shown) → P t) :
    P (s.after (.editAt address input)) := by
  refine unlessRefused_of hs fun t ht => ?_
  obtain ⟨⟨_, shown⟩, hedit, rfl⟩ := map_eq_ok_iff.mp ht
  exact h _ shown hedit

end

namespace Reachable

/-- A step from a reachable sheet leads to a reachable one, refused or not. -/
theorem after {s : Sheet} (hs : Reachable s) (operation : Operation) :
    Reachable (s.after operation) := by
  cases operation with
  | setInput p input => exact unlessRefused_of hs fun _ h => .setInput hs h
  | setDisplay p display => exact unlessRefused_of hs fun _ h => .setDisplay hs h
  | clear p => exact .clear hs p
  | resize rows cols => exact .resize hs rows cols
  | rename name => exact .rename hs name
  | edit mode p input => exact after_edit_of hs fun _ _ h => .edit hs h
  | editAt address input => exact after_editAt_of hs fun _ _ h => .editAt hs h
  | recalculate limit => exact .recalculate hs limit
  | script mode edits => exact .script hs mode edits

theorem run {s : Sheet} (hs : Reachable s) (operations : List Operation) :
    Reachable (s.run operations) := by
  induction operations generalizing s with
  | nil => exact hs
  | cons operation operations ih => exact ih (hs.after operation)

end Reachable

/-! ## The cells that are kept -/

theorem formulas_eq_filter (s : Sheet) :
    s.formulas = s.entries.filter fun e => e.2.input.toList.head? = some '=' := by
  refine List.filter_congr fun e _ => ?_
  rw [Bool.eq_iff_iff, decide_eq_true_iff]
  exact Cell.isFormula_iff

/-- After any run from an empty sheet, every cell kept is in the grid and holds something; the
cells are listed in row-major order, each that a look finds exactly once; the formulas among
them are those whose input has `=` in front; and the size is their number. -/
theorem run_entries (name : String) (rows cols : Nat) (operations : List Operation) :
    let s := run ⟨name, rows, cols, []⟩ operations
    (∀ e ∈ s.entries, e.1.row < s.rows ∧ e.1.col < s.cols) ∧
    (∀ e ∈ s.entries, ¬ (e.2.input = "" ∧ e.2.display = "")) ∧
    (∀ p c, s.entries.count (p, c) = if s.cell? p = some c then 1 else 0) ∧
    (s.entries.Pairwise fun e f =>
      e.1.row < f.1.row ∨ (e.1.row = f.1.row ∧ e.1.col < f.1.col)) ∧
    (s.formulas = s.entries.filter fun e => e.2.input.toList.head? = some '=') ∧
    s.size = s.entries.length := by
  intro s
  have hs : s.WellFormed := ((reachable_empty name rows cols).run operations).wellFormed
  refine ⟨fun e he => ?_, fun e he => ?_, fun p c => ?_, ?_, formulas_eq_filter s, rfl⟩
  · have hinside := hs.inside e he
    rw [contains, Bool.and_eq_true] at hinside
    exact ⟨of_decide_eq_true hinside.1, of_decide_eq_true hinside.2⟩
  · rw [← Cell.isBlank_iff, hs.notBlank e he]
    exact Bool.false_ne_true
  · rw [hs.ordered.nodup.count]
    have hfound : (p, c) ∈ s.entries ↔ s.cell? p = some c :=
      (Entries.find?_eq_some_iff hs.ordered).symm
    exact ite_congr (propext hfound) (fun _ => rfl) fun _ => rfl
  · exact hs.ordered.imp Position.before_iff.mp

end Sheet

end Spreadsheet
