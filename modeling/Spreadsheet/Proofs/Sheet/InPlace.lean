import Spreadsheet.Proofs.Sheet.Order
import Spreadsheet.Proofs.Sheet.LastEdits

/-!
# Changes in place

A sheet that is changed in place may be left half changed: an edit types its input before it
calculates, a recalculation shows one value after the other, and a step that is refused takes
nothing back. On a sheet that is made by such changes no step but the first is ever refused, so
a change that is refused has changed nothing.

- `Sheet.InPlace`, `InPlace.on`: changes in place, and what they come to on a sheet.
- `InPlace.setInput`, `InPlace.recalculate`, `InPlace.edit`, `InPlace.script` and their like:
  the changes, step by step.
- `on_edit`, `on_recalculate`, `on_script`: they come to what the changes that
  return a new sheet come to.
- `script_stops`, `script_shows`: the edit at which a script stops, and what a script
  shows that does not stop.
- `InPlace.RefusedIf`, `InPlace.ScriptOutcome`: when changes and scripts are refused,
  and what they leave behind.
- `afterInPlace_eq`, `runInPlace_eq`: steps and runs of all operations.
- `refused_changes`: when the changes are refused after any run, and what is left then.
-/

namespace Spreadsheet

namespace Sheet

/-- A change that is made to a sheet in place. Each step works on the sheet as the steps before
left it, and nothing is taken back when a step is refused. -/
abbrev InPlace (ε : Type) := ExceptT ε (StateM Sheet)

namespace InPlace

variable {ε α β : Type}

/-- The outcome of a change, and the sheet that it leaves behind. -/
def on (change : InPlace ε α) (s : Sheet) : Except ε α × Sheet := (change.run.run s).run

/-! ## The changes, step by step -/

/-- Refuses a position that is not in the grid. -/
def checkInside (p : Position) : InPlace Error Unit := do
  MonadExcept.ofExcept ((← get).checkInside p)

/-- Types an input into a cell, which then shows it. -/
def setInput (p : Position) (input : String) : InPlace Error Unit := do
  checkInside p
  modify fun s => s.store p (.ofInput input)

/-- Changes what a cell shows. -/
def setDisplay (p : Position) (display : String) : InPlace Error Unit := do
  checkInside p
  modify fun s => s.store p ⟨s.inputAt p, display⟩

/-- Calculates all formulas, and then shows their values one after the other. -/
def recalculate (limit : Nat) : InPlace Error Unit := do
  let s ← get
  let shown := s.formulas.map fun e => (e.1, s.displayOf limit e.2.input)
  forM shown fun w => setDisplay w.1 w.2

/-- Calculates all formulas, or what a cell shows whose input was just typed. -/
def calculate (mode : EditMode) (p : Position) (input : String) : InPlace Error Unit := do
  if mode.recalculates then recalculate mode.limit
  else setDisplay p ((← get).displayOf mode.limit input)

/-- Types an input into a cell and calculates, and returns what the cell then shows. -/
def edit (mode : EditMode) (p : Position) (input : String) : InPlace Error String := do
  setInput p input
  calculate mode p input
  return (← get).displayAt p

/-- Types an input into the cell at an address, and calculates that cell only. -/
def editAt (address input : String) : InPlace Error String := do
  let a ← MonadExcept.ofExcept ((← get).resolve address)
  edit .usual a.position input

/-- Makes edits one after the other. -/
def script (mode : EditMode) : List Edit → InPlace Script.Error (List String)
  | [] => return []
  | e :: edits => do
    let shown ← ExceptT.adapt (.refused e.line) (edit mode e.address.position e.input)
    let more ← script mode edits
    return shown :: more

/-! ## What steps come to -/

/-- What follows a change sees the sheet as the change has left it, and does not
follow a refusal. -/
theorem on_bind (change : InPlace ε α) (next : α → InPlace ε β) (s : Sheet) :
    (change >>= next).on s =
      match change.on s with
      | (.ok a, t) => (next a).on t
      | (.error e, t) => (.error e, t) := by
  show (ExceptT.bindCont next (change.on s).1).run (change.on s).2 = _
  obtain ⟨result, t⟩ := change.on s
  cases result <;> rfl

theorem on_get (s : Sheet) : InPlace.on (get : InPlace ε Sheet) s = (.ok s, s) := rfl

/-- A result that is known already changes nothing. -/
theorem on_ofExcept (result : Except ε α) (s : Sheet) :
    InPlace.on (MonadExcept.ofExcept result) s = (result, s) := by
  cases result <;> rfl

theorem on_adapt {ε' : Type} (f : ε → ε') (change : InPlace ε α) (s : Sheet) :
    InPlace.on (ExceptT.adapt f change) s = ((change.on s).1.mapError f, (change.on s).2) := rfl

/-- A check looks at the sheet and leaves it as it is. -/
theorem on_checkInside (p : Position) (s : Sheet) :
    (checkInside p).on s = (s.checkInside p, s) :=
  on_ofExcept (s.checkInside p) s

/-- What a change comes to that is made as a whole or not at all. -/
def whole (s : Sheet) : Except ε (Sheet × α) → Except ε α × Sheet
  | .ok (t, a) => (.ok a, t)
  | .error e => (.error e, s)

/-- A refused input leaves the sheet as it was, since the check comes first. -/
theorem on_setInput (p : Position) (input : String) (s : Sheet) :
    (setInput p input).on s = whole s ((s.setInput p input).map (·, ())) := by
  unfold setInput Sheet.setInput
  rw [on_bind, on_checkInside]
  cases s.checkInside p <;> rfl

/-- The same of a text to show. -/
theorem on_setDisplay (p : Position) (display : String) (s : Sheet) :
    (setDisplay p display).on s = whole s ((s.setDisplay p display).map (·, ())) := by
  unfold setDisplay Sheet.setDisplay
  rw [on_bind, on_checkInside]
  cases s.checkInside p <;> rfl

/-- Texts that are all taken one after the other are all shown. -/
theorem on_forM_setDisplay {ws : List (Position × String)} {s t : Sheet}
    (h : ws.foldlM (fun u w => u.setDisplay w.1 w.2) s = .ok t) :
    InPlace.on (forM ws fun w => setDisplay w.1 w.2) s = (.ok (), t) := by
  induction ws generalizing s with
  | nil =>
    cases h
    rfl
  | cons w ws ih =>
    rw [List.foldlM_cons] at h
    obtain ⟨u, hu, h⟩ := bind_eq_ok_iff.mp h
    rw [List.forM_cons, on_bind, on_setDisplay, hu]
    exact ih h

section

variable {s : Sheet} (hs : s.WellFormed)

include hs

/-- No value is refused that a recalculation shows. -/
theorem on_recalculate (limit : Nat) :
    (recalculate limit).on s = (.ok (), s.recalculate limit) := by
  unfold recalculate
  rw [on_bind, on_get]
  exact on_forM_setDisplay (foldlM_setDisplay_formulas hs limit)

/-- Nothing is refused of a calculation that follows an input into the same cell. -/
theorem on_calculate {p : Position} {input : String} {typed : Sheet}
    (htyped : s.setInput p input = .ok typed)
    (mode : EditMode) : ∃ t, (calculate mode p input).on typed = (.ok (), t) ∧
      s.edit mode p input = .ok (t, t.displayAt p) := by
  unfold calculate
  cases hmode : mode.recalculates with
  | true =>
    rw [if_pos rfl]
    exact ⟨_, on_recalculate (hs.setInput htyped) mode.limit,
      edit_eq_ok_iff.mpr ⟨typed, htyped, .inl ⟨hmode, rfl⟩, rfl⟩⟩
  | false =>
    obtain ⟨t, ht⟩ := exists_setDisplay htyped (typed.displayOf mode.limit input)
    refine ⟨t, ?_, edit_eq_ok_iff.mpr ⟨typed, htyped, .inr ⟨hmode, ht⟩, rfl⟩⟩
    rw [if_neg Bool.false_ne_true, on_bind, on_get]
    dsimp only
    rw [on_setDisplay, ht]
    rfl

/-- Once an input was typed, nothing more is refused of an edit. -/
theorem on_edit (mode : EditMode) (p : Position) (input : String) :
    (edit mode p input).on s = whole s (s.edit mode p input) := by
  unfold edit
  rw [on_bind, on_setInput]
  cases htyped : s.setInput p input with
  | error e =>
    rw [edit_eq_error_iff.mpr (setInput_eq_error_iff.mp htyped)]
    rfl
  | ok typed =>
    obtain ⟨t, hcalculate, hedit⟩ := on_calculate hs htyped mode
    dsimp only [Except.map, whole]
    rw [hedit, on_bind, hcalculate]
    rfl

/-- An edit at an address resolves it on the sheet that it then edits. -/
theorem on_editAt (address input : String) :
    (editAt address input).on s = whole s (s.editAt address input) := by
  unfold editAt Sheet.editAt
  rw [on_bind, on_get]
  dsimp only
  rw [on_bind, on_ofExcept]
  cases s.resolve address with
  | error e => rfl
  | ok a => exact on_edit hs .usual a.position input

end

/-! ## Scripts -/

/-- A script goes on from the sheet that its first edit has left, refused or not. -/
theorem on_script_cons (mode : EditMode) (e : Edit) (edits : List Edit) (s : Sheet) :
    (script mode (e :: edits)).on s =
      match (edit mode e.address.position e.input).on s with
      | (.ok shown, t) =>
        (((script mode edits).on t).1.map (shown :: ·), ((script mode edits).on t).2)
      | (.error error, t) => (.error (.refused e.line error), t) := by
  rw [script, on_bind, on_adapt]
  obtain ⟨result, t⟩ := (edit mode e.address.position e.input).on s
  cases result with
  | error error => rfl
  | ok shown =>
    dsimp only [Except.mapError]
    rw [on_bind]
    obtain ⟨result, u⟩ := (script mode edits).on t
    cases result <;> rfl

/-- What a script comes to is what it comes to without changes in place. -/
theorem on_script {s : Sheet} (hs : s.WellFormed) (mode : EditMode) (edits : List Edit) :
    (script mode edits).on s =
      ((Script.apply s mode edits).2, (Script.apply s mode edits).1) := by
  induction edits generalizing s with
  | nil => rfl
  | cons e edits ih =>
    rw [on_script_cons, on_edit hs, Script.apply]
    cases hedit : s.edit mode e.address.position e.input with
    | error error => rfl
    | ok result =>
      show (((script mode edits).on result.1).1.map _, ((script mode edits).on result.1).2) = _
      rw [ih (hs.edit hedit)]

/-- A script that goes on with more edits. -/
theorem on_script_append (mode : EditMode) (edits more : List Edit) (s : Sheet) :
    (script mode (edits ++ more)).on s =
      match (script mode edits).on s with
      | (.ok shown, t) =>
        (((script mode more).on t).1.map (shown ++ ·), ((script mode more).on t).2)
      | (.error e, t) => (.error e, t) := by
  induction edits generalizing s with
  | nil =>
    show _ = (((script mode more).on s).1.map id, ((script mode more).on s).2)
    rw [Except.map_id]
    rfl
  | cons e edits ih =>
    rw [List.cons_append, on_script_cons, on_script_cons]
    obtain ⟨result, t⟩ := (edit mode e.address.position e.input).on s
    cases result with
    | error error => rfl
    | ok shown =>
      dsimp only
      rw [ih]
      obtain ⟨result, u⟩ := (script mode edits).on t
      cases result with
      | error error => rfl
      | ok more' =>
        dsimp only [Except.map]
        obtain ⟨result, v⟩ := (script mode more).on u
        cases result <;> rfl

/-- Edits change no dimension, also not up to one that is refused. -/
theorem contains_script {s : Sheet} (hs : s.WellFormed) (mode : EditMode) (edits : List Edit)
    (p : Position) : ((script mode edits).on s).2.contains p = s.contains p := by
  have hframe : (Script.apply s mode edits).1.rows = s.rows ∧
      (Script.apply s mode edits).1.cols = s.cols :=
    script_of_edit (P := fun t => t.rows = s.rows ∧ t.cols = s.cols)
      (fun ht hedit => ⟨(edit_frame hedit).2.1.trans ht.1, (edit_frame hedit).2.2.trans ht.2⟩)
        ⟨rfl, rfl⟩ edits
  rw [on_script hs, contains, hframe.1, hframe.2, contains]

/-- A script stops at its first edit outside the grid, and leaves the sheet to which the
edits before it lead. -/
theorem script_stops {s : Sheet} (hs : s.WellFormed) {mode : EditMode} {edits : List Edit}
    {error : Script.Error} (h : ((script mode edits).on s).1 = .error error) :
    ∃ before e after shown, edits = before ++ e :: after ∧
      (∀ b ∈ before, s.contains b.address.position = true) ∧
        s.contains e.address.position = false ∧
      error = .refused e.line (.outside e.address.position s.rows s.cols) ∧
      (script mode before).on s = (.ok shown, ((script mode edits).on s).2) := by
  induction edits generalizing s with
  | nil => cases h
  | cons e edits ih =>
    rw [on_script_cons, on_edit hs] at h ⊢
    cases hinside : s.contains e.address.position with
    | false =>
      rw [edit_eq_error_iff.mpr ⟨hinside, rfl⟩] at h ⊢
      cases h
      exact ⟨[], e, edits, [], rfl, nofun, hinside, rfl, rfl⟩
    | true =>
      obtain ⟨t, shown, hedit⟩ := exists_edit_eq_ok hinside mode e.input
      -- the edits that are left are made on `t`, which has the grid of `s`
      obtain ⟨-, hrows, hcols⟩ := edit_frame hedit
      have hcontains := contains_edit hedit
      rw [hedit] at h ⊢
      obtain ⟨before, f, after, more, rfl, hbefore, hf, rfl, hstop⟩ :=
        ih (hs.edit hedit) (map_eq_error_iff.mp h)
      refine ⟨e :: before, f, after, shown :: more, rfl, ?_, (hcontains _).symm.trans hf,
        by rw [hrows, hcols], ?_⟩
      · intro b hb
        rcases List.mem_cons.mp hb with rfl | hb
        · exact hinside
        · exact (hcontains _).symm.trans (hbefore b hb)
      · rw [on_script_cons, on_edit hs, hedit]
        dsimp only [whole]
        rw [hstop]
        rfl

/-- A script that is carried out shows one text for each edit. -/
theorem length_of_script {s : Sheet} {mode : EditMode} {edits : List Edit} {shown : List String}
    (h : ((script mode edits).on s).1 = .ok shown) : shown.length = edits.length := by
  induction edits generalizing s shown with
  | nil =>
    cases h
    rfl
  | cons e edits ih =>
    rw [on_script_cons] at h
    generalize (edit mode e.address.position e.input).on s = step at h
    obtain ⟨result, t⟩ := step
    cases result with
    | error error => cases h
    | ok first =>
      obtain ⟨more, hmore, rfl⟩ := map_eq_ok_iff.mp h
      rw [List.length_cons, List.length_cons, ih hmore]

/-- Of a script that is carried out each edit is made, on the sheet to which the edits before it
lead, and the text that its cell then shows stands where the edit stands among the edits. -/
theorem script_shows {s : Sheet} {mode : EditMode} {before after : List Edit} {e : Edit}
    {shown : List String} (h : ((script mode (before ++ e :: after)).on s).1 = .ok shown) :
    ∃ text, shown[before.length]? = some text ∧
      ((edit mode e.address.position e.input).on ((script mode before).on s).2).1 =
        .ok text := by
  have hlength := @length_of_script s mode before
  rw [on_script_append] at h
  generalize (script mode before).on s = first at h hlength ⊢
  obtain ⟨result, t⟩ := first
  cases result with
  | error error => cases h
  | ok first =>
    obtain ⟨rest, hrest, rfl⟩ := map_eq_ok_iff.mp h
    rw [on_script_cons] at hrest
    dsimp only
    generalize (edit mode e.address.position e.input).on t = step at hrest ⊢
    obtain ⟨result, u⟩ := step
    cases result with
    | error error => cases hrest
    | ok text =>
      obtain ⟨more, -, rfl⟩ := map_eq_ok_iff.mp hrest
      refine ⟨text, ?_, rfl⟩
      rw [← hlength rfl, List.getElem?_append_right (Nat.le_refl _), Nat.sub_self,
        List.getElem?_cons_zero]

/-! ## What is left of a change that is refused -/

/-- A change in place comes to what a change does that returns a new sheet. It is refused
exactly under a condition, and then leaves the sheet as it was. -/
structure RefusedIf (change : InPlace ε α) (s : Sheet) (result : Except ε (Sheet × α))
    (condition : Prop) : Prop where
  comes_to : change.on s = whole s result
  refused_iff : (∃ e, (change.on s).1 = .error e) ↔ condition
  unchanged : ∀ e, (change.on s).1 = .error e → (change.on s).2 = s

/-- What a change does as a whole decides when it is refused. -/
theorem refusedIf_of_whole {change : InPlace ε α} {s : Sheet} {result : Except ε (Sheet × α)}
    {condition : Prop}
    (hon : change.on s = whole s result) (h : (∃ e, result = .error e) ↔ condition) :
    change.RefusedIf s result condition := by
  refine ⟨hon, ?_, fun e he => ?_⟩
  · rw [← h, hon]
    cases result with
    | error e => exact ⟨fun _ => ⟨e, rfl⟩, fun _ => ⟨e, rfl⟩⟩
    | ok result => exact ⟨nofun, nofun⟩
  · rw [hon] at he ⊢
    cases result with
    | error e => rfl
    | ok result => cases he

/-- What a script comes to: it is refused if one of its edits is outside the grid. The
first such edit is then reported, and the edits before it stay; otherwise each edit
shows a text, in order. -/
structure ScriptOutcome (mode : EditMode) (edits : List Edit) (s : Sheet) : Prop where
  comes_to : (script mode edits).on s =
    ((Script.apply s mode edits).2, (Script.apply s mode edits).1)
  refused_iff : (∃ error, ((script mode edits).on s).1 = .error error) ↔
    ∃ e ∈ edits, s.contains e.address.position = false
  stops : ∀ error, ((script mode edits).on s).1 = .error error →
    ∃ before e after shown, edits = before ++ e :: after ∧
      (∀ b ∈ before, s.contains b.address.position = true) ∧
        s.contains e.address.position = false ∧
      error = .refused e.line (.outside e.address.position s.rows s.cols) ∧
      (script mode before).on s = (.ok shown, ((script mode edits).on s).2)
  shows : ∀ shown, ((script mode edits).on s).1 = .ok shown →
    shown.length = edits.length ∧ ∀ before e after, edits = before ++ e :: after →
      ∃ text, shown[before.length]? = some text ∧
        ((edit mode e.address.position e.input).on ((script mode before).on s).2).1 = .ok text

/-- A change that is refused outside only is refused exactly there. -/
theorem refusedIf_outside {change : InPlace Error α} {s : Sheet}
    {result : Except Error (Sheet × α)} {p : Position} (hon : change.on s = whole s result)
    (h : ∀ e, result = .error e ↔ s.contains p = false ∧ e = .outside p s.rows s.cols) :
    change.RefusedIf s result (s.contains p = false) := by
  refine refusedIf_of_whole hon ⟨?_, fun houtside => ⟨_, (h _).mpr ⟨houtside, rfl⟩⟩⟩
  rintro ⟨e, he⟩
  exact ((h e).mp he).1

theorem setInput_refusedIf (s : Sheet) (p : Position) (input : String) :
    (setInput p input).RefusedIf s ((s.setInput p input).map (·, ())) (s.contains p = false) :=
  refusedIf_outside (on_setInput p input s) fun _ =>
    map_eq_error_iff.trans setInput_eq_error_iff

theorem setDisplay_refusedIf (s : Sheet) (p : Position) (display : String) :
    (setDisplay p display).RefusedIf s ((s.setDisplay p display).map (·, ()))
      (s.contains p = false) :=
  refusedIf_outside (on_setDisplay p display s) fun _ =>
    map_eq_error_iff.trans setDisplay_eq_error_iff

section

variable {s : Sheet} (hs : s.WellFormed)

include hs

/-- An edit is refused outside, and nowhere else. -/
theorem edit_refusedIf (mode : EditMode) (p : Position) (input : String) :
    (edit mode p input).RefusedIf s (s.edit mode p input) (s.contains p = false) :=
  refusedIf_outside (on_edit hs mode p input) fun _ => edit_eq_error_iff

/-- At an address it is also refused if the text is no address. -/
theorem editAt_refusedIf (address input : String) :
    (editAt address input).RefusedIf s (s.editAt address input)
      ((∃ e, Address.parse address = .error e) ∨
        ∃ a, Address.parse address = .ok a ∧ s.contains a.position = false) := by
  refine refusedIf_of_whole (on_editAt hs address input) ?_
  rw [exists_congr fun _ => editAt_eq_error_iff, exists_resolve_eq_error_iff]

/-- A script stops at its first refused edit, and has made those before it. -/
theorem script_outcome (mode : EditMode) (edits : List Edit) : ScriptOutcome mode edits s := by
  refine ⟨on_script hs mode edits, ⟨?_, ?_⟩, fun _ h => script_stops hs h,
    fun _ h => ⟨length_of_script h, ?_⟩⟩
  · rintro ⟨error, h⟩
    obtain ⟨before, e, after, _, rfl, -, he, -⟩ := script_stops hs h
    exact ⟨e, by simp, he⟩
  · rintro ⟨e, he, houtside⟩
    obtain ⟨before, after, rfl⟩ := List.append_of_mem he
    cases hresult : ((script mode (before ++ e :: after)).on s).1 with
    | error error => exact ⟨error, rfl⟩
    | ok shown =>
      -- then this edit would have been made
      obtain ⟨text, -, hedit⟩ := script_shows hresult
      have hs' : ((script mode before).on s).2.WellFormed := by
        rw [on_script hs]
        exact hs.script mode before
      obtain ⟨error, hrefused⟩ :=
        (edit_refusedIf hs' mode e.address.position e.input).refused_iff.mpr
        ((contains_script hs mode before _).trans houtside)
      cases hedit.symm.trans hrefused
  · rintro before e after rfl
    exact script_shows h

end

/-- What is left of a change that is made as a whole or not at all. -/
theorem whole_sheet (s : Sheet) (result : Except Error (Sheet × α)) :
    (whole s result).2 = s.unlessRefused (result.map Prod.fst) := by
  cases result <;> rfl

/-- What is left of a refused change is the sheet before it. -/
theorem whole_unit (s : Sheet) (result : Except Error Sheet) :
    (whole s (result.map (·, ()))).2 = s.unlessRefused result := by
  cases result <;> rfl

end InPlace

/-! ## Steps and runs -/

/-- The sheet after an operation that is made in place. -/
def afterInPlace (s : Sheet) : Operation → Sheet
  | .setInput p input => ((InPlace.setInput p input).on s).2
  | .setDisplay p display => ((InPlace.setDisplay p display).on s).2
  | .clear p => s.clear p
  | .resize rows cols => s.resize rows cols
  | .rename name => s.rename name
  | .edit mode p input => ((InPlace.edit mode p input).on s).2
  | .editAt address input => ((InPlace.editAt address input).on s).2
  | .recalculate limit => ((InPlace.recalculate limit).on s).2
  | .script mode edits => ((InPlace.script mode edits).on s).2

/-- The sheet after operations that are made in place, one after the other. -/
def runInPlace (s : Sheet) (operations : List Operation) : Sheet :=
  operations.foldl afterInPlace s

open InPlace in
/-- Each operation leaves in place what it makes of the sheet. -/
theorem afterInPlace_eq {s : Sheet} (hs : s.WellFormed) (operation : Operation) :
    s.afterInPlace operation = s.after operation := by
  cases operation with
  | setInput p input => rw [afterInPlace, on_setInput, whole_unit, after]
  | setDisplay p display => rw [afterInPlace, on_setDisplay, whole_unit, after]
  | clear p => rfl
  | resize rows cols => rfl
  | rename name => rfl
  | edit mode p input => rw [afterInPlace, on_edit hs, whole_sheet, after]
  | editAt address input => rw [afterInPlace, on_editAt hs, whole_sheet, after]
  | recalculate limit => rw [afterInPlace, on_recalculate hs, after]
  | script mode edits => rw [afterInPlace, on_script hs, after]

/-- A run of changes in place leads to the sheet to which the changes lead that
return new sheets. -/
theorem runInPlace_eq {s : Sheet} (hs : Reachable s) (operations : List Operation) :
    s.runInPlace operations = s.run operations := by
  induction operations generalizing s with
  | nil => rfl
  | cons operation operations ih =>
    show (s.afterInPlace operation).runInPlace operations = (s.after operation).run operations
    rw [afterInPlace_eq hs.wellFormed]
    exact ih (hs.after operation)

/-- After any run from an empty sheet, an input, a display or an edit is refused exactly if its
cell is outside the grid, and an edit at an address also if the address cannot be read. The
sheet is then as it was, whatever formulas it holds. A script is refused exactly if one of its
edits is outside the grid; the edits before the first such edit stay. -/
theorem refused_changes (name : String) (rows cols : Nat) (operations : List Operation) :
    let s := runInPlace ⟨name, rows, cols, []⟩ operations
    s = run ⟨name, rows, cols, []⟩ operations ∧
    (∀ p input, (InPlace.setInput p input).RefusedIf s ((s.setInput p input).map (·, ()))
      (s.contains p = false)) ∧
    (∀ p display, (InPlace.setDisplay p display).RefusedIf s
      ((s.setDisplay p display).map (·, ())) (s.contains p = false)) ∧
    (∀ mode p input,
      (InPlace.edit mode p input).RefusedIf s (s.edit mode p input) (s.contains p = false)) ∧
    (∀ address input, (InPlace.editAt address input).RefusedIf s (s.editAt address input)
      ((∃ e, Address.parse address = .error e) ∨
        ∃ a, Address.parse address = .ok a ∧ s.contains a.position = false)) ∧
    ∀ mode edits, InPlace.ScriptOutcome mode edits s := by
  intro s
  have hrun : s = run ⟨name, rows, cols, []⟩ operations :=
    runInPlace_eq (reachable_empty name rows cols) operations
  have hs : s.WellFormed := hrun ▸ ((reachable_empty name rows cols).run operations).wellFormed
  exact ⟨hrun, InPlace.setInput_refusedIf s, InPlace.setDisplay_refusedIf s,
    InPlace.edit_refusedIf hs, InPlace.editAt_refusedIf hs, InPlace.script_outcome hs⟩

end Sheet

end Spreadsheet
