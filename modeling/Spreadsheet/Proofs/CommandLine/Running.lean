import Spreadsheet.CommandLine.Outcome
import Spreadsheet.Proofs.Script
import Spreadsheet.Proofs.Sheet.Counting
import Spreadsheet.Proofs.Sheet.LastEdits

/-!
# Running a script

A run of a script fails for the size of the sheet, for a line that is malformed, or for a
line that addresses a cell outside the sheet, and it says which. Nothing that is typed
into cells can make it fail.

- `Script.apply_eq_error`: the first edit outside the sheet is refused.
- `Script.Allows`: the lines that a sheet of a certain size allows.
- `Command.sheetOf_of_malformed`, `Command.sheetOf_of_outside`: why a script makes no sheet.
- `Command.exists_sheetOf_iff`: the scripts that make one.
- `Command.recount_sheetOf`: the formulas of such a sheet can always be calculated again.
- `code_eq_zero_iff`: when a run succeeds, and what it says otherwise.
-/

namespace Spreadsheet

namespace Script

/-- The first edit outside the sheet is refused, whatever the edits before it do. -/
theorem apply_eq_error {s : Sheet} (mode : Sheet.EditMode) {edits : List Edit}
    (hedits : ∀ e ∈ edits, s.contains e.address.position = true) {e : Edit}
    (he : s.contains e.address.position = false) (more : List Edit) :
    (apply s mode (edits ++ e :: more)).2 =
      .error (.refused e.line (.outside e.address.position s.rows s.cols)) := by
  induction edits generalizing s with
  | nil =>
    have hedit : s.edit mode e.address.position e.input =
        .error (.outside e.address.position s.rows s.cols) :=
      Sheet.edit_eq_error_iff.mpr ⟨he, rfl⟩
    rw [List.nil_append, apply, hedit]
  | cons f edits ih =>
    obtain ⟨t, shown, hedit⟩ :=
      Sheet.exists_edit_eq_ok (hedits f List.mem_cons_self) mode f.input
    obtain ⟨-, hrows, hcols⟩ := Sheet.edit_frame hedit
    have hcontains := Sheet.contains_edit hedit
    have hinside : ∀ d ∈ edits, t.contains d.address.position = true := fun d hd =>
      (hcontains _).trans (hedits d (List.mem_cons_of_mem f hd))
    have hrest := ih hinside ((hcontains _).trans he)
    rw [List.cons_append, apply, hedit]
    show (apply t mode (edits ++ e :: more)).2.map (shown :: ·) = _
    rw [hrest, hrows, hcols]
    rfl

/-- The line says nothing, or addresses a cell of a sheet of so many rows and columns. -/
def Allows (rows cols : Nat) (line : String) : Prop :=
  Edit.IsFiller line.toList ∨
    ∃ a, Edit.Addresses line a ∧ a.position.row < rows ∧ a.position.col < cols

/-- A sheet of so many rows and columns contains the positions below them. -/
theorem contains_new {rows cols : Nat} {p : Position} :
    (Sheet.new rows cols).contains p = true ↔ p.row < rows ∧ p.col < cols :=
  Sheet.contains_iff

end Script

namespace Edit

variable {line : String} {a : Address} {e : Address.Error}

/-- A line that is read is not malformed. -/
theorem not_malformed_of_parseLine {edit : Option Edit} (h : parseLine 1 line = .ok edit) :
    ¬ Malformed line e :=
  fun he => nomatch (parseLine_of_malformed 1 he).symm.trans h

theorem not_malformed_of_isFiller (h : IsFiller line.toList) : ¬ Malformed line e :=
  not_malformed_of_parseLine (parseLine_eq_none 1 h)

theorem not_malformed_of_addresses (h : Addresses line a) : ¬ Malformed line e := by
  obtain ⟨input, hread⟩ := parseLine_of_addresses 1 h
  exact not_malformed_of_parseLine hread

/-- A line addresses one cell at most. -/
theorem Addresses.unique {b : Address} (h : Addresses line a) (k : Addresses line b) :
    a = b := by
  obtain ⟨input, hread⟩ := parseLine_of_addresses 1 h
  obtain ⟨input', hread'⟩ := parseLine_of_addresses 1 k
  cases hread.symm.trans hread'
  rfl

theorem not_isFiller_of_addresses (h : Addresses line a) : ¬ IsFiller line.toList := by
  intro hfiller
  obtain ⟨input, hread⟩ := parseLine_of_addresses 1 h
  cases hread.symm.trans (parseLine_eq_none 1 hfiller)

end Edit

namespace Script

variable {rows cols : Nat} {line : String}

/-- What a sheet allows is not malformed, whatever the sheet. -/
theorem Allows.not_malformed (h : Allows rows cols line) {e : Address.Error} :
    ¬ Edit.Malformed line e := by
  rcases h with h | ⟨a, h, -⟩
  · exact Edit.not_malformed_of_isFiller h
  · exact Edit.not_malformed_of_addresses h

/-- What a sheet allows is inside, if it addresses a cell. -/
theorem Allows.inside (h : Allows rows cols line) {a : Address} (ha : Edit.Addresses line a) :
    a.position.row < rows ∧ a.position.col < cols := by
  rcases h with h | ⟨b, hb, hinside⟩
  · exact absurd h (Edit.not_isFiller_of_addresses ha)
  · rw [ha.unique hb]
    exact hinside

/-- A line that is not allowed is malformed or addresses a cell outside. -/
theorem cases_of_not_allows (h : ¬ Allows rows cols line) : (∃ e, Edit.Malformed line e) ∨
    ∃ a, Edit.Addresses line a ∧ ¬ (a.position.row < rows ∧ a.position.col < cols) := by
  rcases Edit.line_cases line with hfiller | ⟨a, ha⟩ | he
  · exact absurd (.inl hfiller) h
  · exact .inr ⟨a, ha, fun hinside => h (.inr ⟨a, ha, hinside⟩)⟩
  · exact .inl he

end Script

/-- There is a first one among the members of a list that have a property. -/
theorem exists_first {α : Type} {P : α → Prop} {xs : List α} (h : ∃ x ∈ xs, P x) :
    ∃ before x after, xs = before ++ x :: after ∧ P x ∧ ∀ y ∈ before, ¬ P y := by
  classical
  obtain ⟨x, hx, hP⟩ := h
  have hsome : (xs.find? fun x => decide (P x)).isSome = true :=
    List.find?_isSome.mpr ⟨x, hx, decide_eq_true hP⟩
  obtain ⟨y, hy⟩ := Option.isSome_iff_exists.mp hsome
  obtain ⟨hy, before, after, hsplit, hbefore⟩ := List.find?_eq_some_iff_append.mp hy
  exact ⟨before, y, after, hsplit, of_decide_eq_true hy,
    fun z hz => by simpa using hbefore z hz⟩

namespace CommandLine

open Script

namespace Command

variable {surroundings : Surroundings} {rows cols limit : Nat}

/-- The size of the sheet is looked at before the script is. -/
theorem sheetOf_of_empty (h : rows = 0 ∨ cols = 0) : sheetOf surroundings "-" rows cols limit =
    .error ⟨"Sheet must have at least one row and one column", []⟩ := by
  rw [sheetOf, if_pos h]
  rfl

/-- The sheet of a script: all lines are read before any edit is made. -/
theorem sheetOf_eq (hrows : 1 ≤ rows) (hcols : 1 ≤ cols) :
    sheetOf surroundings "-" rows cols limit =
      match Script.parse surroundings.stdin with
      | .error e => .error ⟨"Failed to read '-'", scriptCauses e⟩
      | .ok edits =>
        match apply (Sheet.new rows cols) ⟨limit, false⟩ edits with
        | (s, .ok _) => .ok s
        | (_, .error e) => .error ⟨"Failed to apply edits", scriptCauses e⟩ := by
  have hsize : ¬ (rows = 0 ∨ cols = 0) := by omega
  have htext : scriptText surroundings "-" = .ok surroundings.stdin := if_pos rfl
  have hattempt :
      toString "Failed to read '" ++ toString "-" ++ toString "'" = "Failed to read '-'" := rfl
  rw [sheetOf, if_neg hsize]
  dsimp only
  rw [htext, hattempt]
  show (Script.parse surroundings.stdin).mapError _ >>= _ = _
  cases Script.parse surroundings.stdin with
  | error e => rfl
  | ok edits =>
    dsimp only [Except.mapError, bind, Except.bind]
    cases apply (Sheet.new rows cols) ⟨limit, false⟩ edits with
    | mk s result => cases result <;> rfl

section

variable {before after : List String} {line : String}
  (hrows : 1 ≤ rows) (hcols : 1 ≤ cols)
  (hlines : Script.lines surroundings.stdin = before ++ line :: after)

include hrows hcols

/-- If all lines are allowed, all edits are made. -/
theorem sheetOf_of_allows (h : ∀ l ∈ Script.lines surroundings.stdin, Allows rows cols l) :
    ∃ s, sheetOf surroundings "-" rows cols limit = .ok s := by
  obtain ⟨edits, hedits, hall⟩ :=
    exists_parseLines_eq_ok (fun l hl _ => (h l hl).not_malformed) 1
  have hinside : ∀ e ∈ edits, (Sheet.new rows cols).contains e.address.position = true := by
    intro e he
    obtain ⟨l, hl, haddresses⟩ := hall e he
    exact contains_new.mpr ((h l hl).inside haddresses)
  obtain ⟨s, shown, happly, -⟩ :=
    Sheet.edited_script (Sheet.wellFormed_new rows cols) ⟨limit, false⟩ hinside
  refine ⟨s, ?_⟩
  rw [sheetOf_eq hrows hcols, Script.parse, hedits]
  dsimp only
  rw [happly]

include hlines

/-- A malformed line is reported with its number, and no edit is made. -/
theorem sheetOf_of_malformed (hbefore : ∀ l ∈ before, ∀ e, ¬ Edit.Malformed l e)
    {e : Address.Error}
    (hline : Edit.Malformed line e) : sheetOf surroundings "-" rows cols limit =
      .error ⟨"Failed to read '-'",
        [(Script.Error.malformed (before.length + 1) e).message]⟩ := by
  rw [sheetOf_eq hrows hcols, Script.parse, hlines,
    parseLines_eq_error hbefore hline, Nat.add_comm]
  rfl

/-- If no line is malformed, the first one that addresses a cell outside is reported. -/
theorem sheetOf_of_outside
    (hall : ∀ l ∈ Script.lines surroundings.stdin, ∀ e, ¬ Edit.Malformed l e)
    (hbefore : ∀ l ∈ before, Allows rows cols l) {a : Address} (hline : Edit.Addresses line a)
    (houtside : ¬ (a.position.row < rows ∧ a.position.col < cols)) :
    sheetOf surroundings "-" rows cols limit = .error ⟨"Failed to apply edits",
      [(Script.Error.refused (before.length + 1) (.outside a.position rows cols)).message,
        (Sheet.Error.outside a.position rows cols).message]⟩ := by
  obtain ⟨edits, input, more, hedits, haddressed⟩ :=
    exists_parseLines_append_cons (hlines ▸ hall) hline 1
  have hinside : ∀ e ∈ edits, (Sheet.new rows cols).contains e.address.position = true := by
    intro e he
    obtain ⟨l, hl, haddresses⟩ := haddressed e he
    exact contains_new.mpr ((hbefore l hl).inside haddresses)
  have hrefused : (apply (Sheet.new rows cols) ⟨limit, false⟩
      (edits ++ ⟨1 + before.length, a, input⟩ :: more)).2 =
      .error (.refused (1 + before.length) (.outside a.position rows cols)) := by
    refine apply_eq_error _ hinside ?_ more
    exact Bool.eq_false_iff.mpr fun h => houtside (contains_new.mp h)
  rw [sheetOf_eq hrows hcols, Script.parse, hlines, hedits]
  dsimp only
  generalize apply (Sheet.new rows cols) _ _ = result at hrefused ⊢
  obtain ⟨s, _ | shown⟩ := result
  · cases hrefused
    rw [Nat.add_comm 1]
    rfl
  · cases hrefused

end

/-- There is a sheet for the scripts of which all lines are allowed. -/
theorem exists_sheetOf_iff : (∃ s, sheetOf surroundings "-" rows cols limit = .ok s) ↔
    1 ≤ rows ∧ 1 ≤ cols ∧ ∀ line ∈ Script.lines surroundings.stdin, Allows rows cols line := by
  constructor
  · rintro ⟨s, hs⟩
    have hnot (failure : Failure) : sheetOf surroundings "-" rows cols limit ≠ .error failure :=
      fun hfailed => nomatch hs.symm.trans hfailed
    by_cases hsize : rows = 0 ∨ cols = 0
    · exact absurd (sheetOf_of_empty hsize) (hnot _)
    have hrows : 1 ≤ rows := by omega
    have hcols : 1 ≤ cols := by omega
    -- the first malformed line would be reported
    have hall : ∀ l ∈ Script.lines surroundings.stdin, ∀ e, ¬ Edit.Malformed l e := by
      intro l hl e he
      obtain ⟨before, line, after, hlines, ⟨d, hd⟩, hbefore⟩ :=
        exists_first (P := fun l : String => ∃ e, Edit.Malformed l e) ⟨l, hl, e, he⟩
      exact hnot _ (sheetOf_of_malformed hrows hcols hlines
        (fun l hl e he => hbefore l hl ⟨e, he⟩) hd)
    refine ⟨hrows, hcols, fun l hl => ?_⟩
    by_contra hallows
    -- so would the first line outside the sheet, as no line is malformed
    obtain ⟨before, line, after, hlines, hline, hbefore⟩ :=
      exists_first (P := fun l => ¬ Allows rows cols l) ⟨l, hl, hallows⟩
    have hmem : line ∈ Script.lines surroundings.stdin := by
      rw [hlines]
      exact List.mem_append_right before List.mem_cons_self
    obtain ⟨e, he⟩ | ⟨a, ha, houtside⟩ := cases_of_not_allows hline
    · exact hall line hmem e he
    · exact hnot _ (sheetOf_of_outside hrows hcols hlines hall
        (fun l hl => not_not.mp (hbefore l hl)) ha houtside)
  · rintro ⟨hrows, hcols, hall⟩
    exact sheetOf_of_allows hrows hcols hall

/-- The sheet that a script makes is what the edits leave of an empty sheet. -/
theorem exists_edits_of_sheetOf {s : Sheet}
    (h : sheetOf surroundings "-" rows cols limit = .ok s) :
    ∃ edits, Script.parse surroundings.stdin = .ok edits ∧
      s = (apply (Sheet.new rows cols) ⟨limit, false⟩ edits).1 := by
  obtain ⟨hrows, hcols, -⟩ := exists_sheetOf_iff.mp ⟨s, h⟩
  rw [sheetOf_eq hrows hcols] at h
  cases hparse : Script.parse surroundings.stdin with
  | error e =>
    rw [hparse] at h
    cases h
  | ok edits =>
    refine ⟨edits, rfl, ?_⟩
    rw [hparse] at h
    dsimp only at h
    generalize apply (Sheet.new rows cols) ⟨limit, false⟩ edits = result at h ⊢
    obtain ⟨t, _ | shown⟩ := result
    · cases h
    · cases h
      rfl

/-- No cell of a sheet that a script makes refuses to show its value. A recalculation one
step at a time counts what the tally counts, and leaves behind the sheet on which all
formulas are calculated. -/
theorem recount_sheetOf {s : Sheet} (h : sheetOf surroundings "-" rows cols limit = .ok s) :
    (Sheet.InPlace.recount limit).on s = (.ok (s.tally limit), s.recalculate limit) := by
  obtain ⟨edits, -, rfl⟩ := exists_edits_of_sheetOf h
  exact Sheet.InPlace.on_recount
    ((Sheet.wellFormed_new rows cols).script ⟨limit, false⟩ edits) limit

/-- A run carries out what follows the sheet, whatever the sheet is. -/
theorem execute_run (recalculates : Bool) (format : Format) :
    execute surroundings (.run "-" rows cols recalculates limit format) =
      match sheetOf surroundings "-" rows cols limit with
      | .error failure => .failed failure
      | .ok s =>
        if recalculates then
          .done (showSheet (s.recalculate limit) format) (tallyLine (s.tally limit))
        else .done (showSheet s format) "" := by
  rw [execute, perform]
  cases sheetOf surroundings "-" rows cols limit with
  | error failure => rfl
  | ok s => cases recalculates <;> rfl

/-- Without a sheet, nothing is calculated and nothing shown. -/
theorem execute_run_of_error {recalculates : Bool} {format : Format} {failure : Failure}
    (h : sheetOf surroundings "-" rows cols limit = .error failure) :
    execute surroundings (.run "-" rows cols recalculates limit format) = .failed failure := by
  rw [execute_run, h]

/-- A run succeeds if there is a sheet: neither formulas nor the format can make it fail. -/
theorem code_execute_run_eq_zero_iff {recalculates : Bool} {format : Format} :
    (execute surroundings (.run "-" rows cols recalculates limit format)).code = 0 ↔
      ∃ s, sheetOf surroundings "-" rows cols limit = .ok s := by
  rw [execute_run]
  cases sheetOf surroundings "-" rows cols limit with
  | error failure => exact ⟨nofun, nofun⟩
  | ok s => cases recalculates <;> exact ⟨fun _ => ⟨s, rfl⟩, fun _ => rfl⟩

end Command

/-- A program that fails writes no output. -/
theorem Outcome.stdout_eq_empty {o : Outcome} (h : o.code ≠ 0) : o.stdout = "" := by
  cases o with
  | misused => rfl
  | failed => rfl
  | done => exact absurd rfl h

/-- A run succeeds exactly if the sheet has a row and a column and each line of the script says
nothing or addresses a cell of the sheet: the recalculation that may follow is never refused.
Otherwise nothing is written as output. What is reported is a sheet without rows or columns,
else the first malformed line, else the first line that addresses a cell outside the sheet. -/
theorem code_eq_zero_iff (surroundings : Surroundings) (rows cols limit : Nat)
    (recalculates : Bool) (format : Format) :
    let result := (Command.run "-" rows cols recalculates limit format).execute surroundings
    (result.code = 0 ↔
      1 ≤ rows ∧ 1 ≤ cols ∧ ∀ line ∈ Script.lines surroundings.stdin, Allows rows cols line) ∧
    (∀ s, Command.sheetOf surroundings "-" rows cols limit = .ok s →
      (Sheet.InPlace.recount limit).on s = (.ok (s.tally limit), s.recalculate limit)) ∧
    (result.code ≠ 0 → result.stdout = "") ∧
    (rows = 0 ∨ cols = 0 →
      result = .failed ⟨"Sheet must have at least one row and one column", []⟩) ∧
    (1 ≤ rows → 1 ≤ cols →
      ∀ before line after, Script.lines surroundings.stdin = before ++ line :: after →
      (∀ e, (∀ l ∈ before, ∀ d, ¬ Edit.Malformed l d) → Edit.Malformed line e →
        result = .failed ⟨"Failed to read '-'",
          [(Script.Error.malformed (before.length + 1) e).message]⟩) ∧
      ∀ a, (∀ l ∈ Script.lines surroundings.stdin, ∀ d, ¬ Edit.Malformed l d) →
        (∀ l ∈ before, Allows rows cols l) → Edit.Addresses line a →
        ¬ (a.position.row < rows ∧ a.position.col < cols) →
        result = .failed ⟨"Failed to apply edits",
          [(Script.Error.refused (before.length + 1) (.outside a.position rows cols)).message,
            (Sheet.Error.outside a.position rows cols).message]⟩) := by
  intro result
  refine ⟨Command.code_execute_run_eq_zero_iff.trans Command.exists_sheetOf_iff,
    fun s => Command.recount_sheetOf, Outcome.stdout_eq_empty,
    fun hsize => Command.execute_run_of_error (Command.sheetOf_of_empty hsize),
    fun hrows hcols before line after hlines =>
      ⟨fun e hbefore hline => ?_, fun a hall hbefore hline houtside => ?_⟩⟩
  · exact Command.execute_run_of_error
      (Command.sheetOf_of_malformed hrows hcols hlines hbefore hline)
  · exact Command.execute_run_of_error
      (Command.sheetOf_of_outside hrows hcols hlines hall hbefore hline houtside)

/-- A column letter without a row number is no address. -/
theorem malformed_x : Edit.Malformed "x" (.noRow "x") := by
  refine ⟨['x'], [], ⟨⟨[], nofun, rfl⟩, nofun, ?_, ?_, nofun⟩, rfl⟩
  · exact List.forall_mem_singleton.mpr rfl
  · rintro c ⟨⟩
    decide

/-- A malformed line is reported although the line before it is outside the sheet. -/
theorem code_of_malformed_behind_outside :
    let surroundings : Surroundings := ⟨"B1\nx\n", fun _ => .error noSuchFile⟩
    (Command.run "-" 1 1 false Formula.usualLimit .table).execute surroundings =
      .failed ⟨"Failed to read '-'",
        ["Malformed edit at line 2: Invalid cell address: no row number in 'x'"]⟩ := by
  intro surroundings
  have hlines : Script.lines surroundings.stdin = ["B1"] ++ "x" :: [] := by decide
  have hbefore : ∀ l ∈ ["B1"], ∀ e, ¬ Edit.Malformed l e := by
    have hread : Edit.parseLine 1 "B1" = .ok (some ⟨1, ⟨⟨0, 1⟩, false, false⟩, ""⟩) := rfl
    exact List.forall_mem_singleton.mpr fun e => Edit.not_malformed_of_parseLine hread
  obtain ⟨-, -, -, -, hreport⟩ :=
    code_eq_zero_iff surroundings 1 1 Formula.usualLimit false .table
  exact (hreport (by decide) (by decide) ["B1"] "x" [] hlines).1 _ hbefore malformed_x

/-- Without rows not even a malformed line is reported. -/
theorem malformed_line_without_rows :
    let surroundings : Surroundings := ⟨"x\n", fun _ => .error noSuchFile⟩
    let result := (Command.run "-" 0 26 false Formula.usualLimit .table).execute surroundings
    Script.lines surroundings.stdin = ["x"] ∧ Edit.Malformed "x" (.noRow "x") ∧
    result.code ≠ 0 ∧
      result ≠ .failed ⟨"Failed to read '-'",
        [(Script.Error.malformed 1 (.noRow "x")).message]⟩ := by
  intro surroundings result
  have hresult : result = .failed ⟨"Sheet must have at least one row and one column", []⟩ :=
    Command.execute_run_of_error (Command.sheetOf_of_empty (.inl rfl))
  refine ⟨by decide, malformed_x, ?_, ?_⟩
  · rw [hresult]
    decide
  · rw [hresult]
    decide

end CommandLine

end Spreadsheet
