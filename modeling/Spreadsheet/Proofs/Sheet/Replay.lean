import Spreadsheet.Proofs.Script
import Spreadsheet.Proofs.Sheet.LastEdits

/-!
# Sheets written down and read again

A sheet that only edits have changed can be written down as a script with one line for each of
its cells, in any order. Carried out on an empty sheet, this script types everything again, and
a recalculation shows the rest.

- `Sheet.OnlyTyped`: every cell holds what typing leaves there, apart from the
  values that formulas show.
- `OnlyTyped.edit`, `OnlyTyped.run`: an edit, and a run of edits.
- `lastInput?_eq_some`, `lastInput?_eq_none`: the last input is the only one, if
  no cell is edited twice.
- `recalculate_replay`: the sheet is the same again.
-/

namespace Spreadsheet

/-! ## Cells that are edited once -/

section

variable {p : Position} {edits : List Edit}

theorem lastInput?_eq_none (h : p ∉ edits.map fun e => e.address.position) :
    lastInput? p edits = none := by
  have hnil : (edits.filter fun e => e.address.position = p) = [] := by
    refine List.filter_eq_nil_iff.mpr fun e he hp => h ?_
    exact List.mem_map.mpr ⟨e, he, of_decide_eq_true hp⟩
  rw [lastInput?, hnil]
  rfl

/-- If no cell is edited twice, then the last input of an edited cell is that of its edit. -/
theorem lastInput?_eq_some (h : (edits.map fun e => e.address.position).Nodup) {e : Edit}
    (he : e ∈ edits) : lastInput? e.address.position edits = some e.input := by
  induction edits with
  | nil => cases he
  | cons first rest ih =>
    obtain ⟨hfirst, hrest⟩ := List.nodup_cons.mp h
    rw [lastInput?_cons]
    rcases List.mem_cons.mp he with rfl | he
    · rw [lastInput?_eq_none hfirst, if_pos rfl]
      rfl
    · rw [ih hrest he]
      rfl

end

namespace Sheet

/-! ## What edits leave behind -/

/-- Every cell holds what typing its input leaves there, apart from the value
that its formula shows. -/
def OnlyTyped (s : Sheet) : Prop := ∀ p, s.typedAt p = Cell.ofTyped? (s.inputAt p)

/-- Is the operation made of edits? -/
def Operation.isEdit : Operation → Bool
  | .edit .. | .editAt .. | .script .. => true
  | _ => false

section

variable {s t : Sheet}

theorem OnlyTyped.edit (hs : s.OnlyTyped) {mode : EditMode} {p : Position}
    {input shown : String} (h : s.edit mode p input = .ok (t, shown)) : t.OnlyTyped := by
  intro q
  rw [inputAt_eq_typedAt, typedAt_edit h]
  by_cases hq : p = q
  · rw [if_pos hq, Cell.input_ofTyped?]
  · rw [if_neg hq, ← inputAt_eq_typedAt]
    exact hs q

theorem OnlyTyped.script (hs : s.OnlyTyped) (mode : EditMode) (edits : List Edit) :
    (Script.apply s mode edits).1.OnlyTyped :=
  script_of_edit (fun hs h => hs.edit h) hs edits

/-- An edit that is refused leaves everything as it was. -/
theorem OnlyTyped.after (hs : s.OnlyTyped) {operation : Operation}
    (h : operation.isEdit = true) : (s.after operation).OnlyTyped := by
  cases operation with
  | edit mode p input => exact after_edit_of hs fun _ _ h => hs.edit h
  | editAt address input =>
    refine after_editAt_of hs fun t shown h => ?_
    obtain ⟨a, -, hedit⟩ := bind_eq_ok_iff.mp h
    exact hs.edit hedit
  | script mode edits => exact hs.script mode edits
  | _ => cases h

theorem OnlyTyped.run (hs : s.OnlyTyped) {operations : List Operation}
    (h : ∀ o ∈ operations, o.isEdit = true) : (s.run operations).OnlyTyped := by
  induction operations generalizing s with
  | nil => exact hs
  | cons operation operations ih =>
    exact ih (hs.after (h operation List.mem_cons_self)) fun o ho =>
      h o (List.mem_cons_of_mem _ ho)

theorem onlyTyped_empty (name : String) (rows cols : Nat) : OnlyTyped ⟨name, rows, cols, []⟩ :=
  fun _ => rfl

/-- An edit with an empty input leaves no cell behind. -/
theorem OnlyTyped.input_ne_empty (hs : s.OnlyTyped) {p : Position} {c : Cell}
    (hc : s.cell? p = some c) : c.input ≠ "" := by
  intro hempty
  have hp := hs p
  rw [inputAt_of_cell? hc, hempty, typedAt, hc] at hp
  cases hp

/-! ## Scripts that type everything again -/

/-- What was typed into the cells of a sheet, cell by cell. -/
def inputs (s : Sheet) : List (Position × String) := s.entries.map fun e => (e.1, e.2.input)

theorem mem_inputs_iff (hs : s.WellFormed) {p : Position} {input : String} :
    (p, input) ∈ s.inputs ↔ ∃ c, s.cell? p = some c ∧ c.input = input := by
  unfold inputs
  rw [List.mem_map]
  constructor
  · rintro ⟨⟨q, c⟩, hc, heq⟩
    cases heq
    exact ⟨c, (Entries.find?_eq_some_iff hs.ordered).mpr hc, rfl⟩
  · rintro ⟨c, hc, rfl⟩
    exact ⟨(p, c), (Entries.find?_eq_some_iff hs.ordered).mp hc, rfl⟩

/-- Edits that type everything on a sheet once, in any order, have its inputs as last inputs. -/
theorem lastInput?_of_inputs (hs : s.WellFormed) {edits : List Edit}
    (h : (edits.map fun e => (e.address.position, e.input)).Perm s.inputs) (p : Position) :
    lastInput? p edits = (s.cell? p).map Cell.input := by
  have hpositions : (edits.map fun e => e.address.position).Perm (s.entries.map Prod.fst) := by
    simpa [inputs, Function.comp_def] using h.map Prod.fst
  have hnodup : (edits.map fun e => e.address.position).Nodup :=
    hpositions.nodup_iff.mpr hs.ordered.nodup_positions
  cases hc : s.cell? p with
  | none =>
    refine lastInput?_eq_none fun hp => ?_
    obtain ⟨⟨q, c⟩, hmem, rfl⟩ := List.mem_map.mp (hpositions.mem_iff.mp hp)
    cases hc.symm.trans ((Entries.find?_eq_some_iff hs.ordered).mpr hmem)
  | some c =>
    have hmem : (p, c.input) ∈ s.inputs := (mem_inputs_iff hs).mpr ⟨c, hc, rfl⟩
    obtain ⟨e, he, heq⟩ := List.mem_map.mp (h.mem_iff.mpr hmem)
    obtain ⟨rfl, hinput⟩ := Prod.mk.inj heq
    rw [lastInput?_eq_some hnodup he, hinput]
    rfl

end

/-- A sheet that only edits have changed can be written down and read again. For a script with
one line for each cell that is kept, in any order, with the address of the cell, blank
characters and what was typed there, and with blank lines and comments anywhere: it is read
without a fault, it is carried out to its end on an empty sheet of the same name and dimensions,
however its edits calculate, and a recalculation then makes this sheet equal to the first one. A
line must have room for each input, and the addresses must reach all cells. -/
theorem recalculate_replay {name : String} {rows cols : Nat}
    {operations : List Operation} {s : Sheet}
    (hs : s = run ⟨name, rows, cols, []⟩ operations)
    (hedits : ∀ o ∈ operations, o.isEdit = true)
    (hrows : s.rows ≤ Address.rowCount) (hcols : s.cols ≤ Column.count)
    (hfits : ∀ i ∈ s.inputs, Edit.FitsLine i.2) {ls : List (List Char)}
    {listed : List (Position × String)}
    (hlists : Script.Lists ls listed) (hlisted : listed.Perm s.inputs) :
    ∃ edits, Script.parse (.ofList (List.intercalate ['\n'] ls)) = .ok edits ∧
      ∀ mode limit, ∃ t shown,
        Script.apply ⟨s.name, s.rows, s.cols, []⟩ mode edits = (t, .ok shown) ∧
        t.recalculate limit = s.recalculate limit := by
  have hwell : s.WellFormed := hs ▸ ((reachable_empty name rows cols).run operations).wellFormed
  have htyped : s.OnlyTyped := hs ▸ (onlyTyped_empty name rows cols).run hedits
  have hinside : ∀ i ∈ listed, s.contains i.1 = true := by
    rintro ⟨p, input⟩ hi
    obtain ⟨c, hc, -⟩ := (mem_inputs_iff hwell).mp (hlisted.mem_iff.mp hi)
    exact hwell.contains_of_cell? hc
  have hne : ∀ i ∈ listed, i.2 ≠ "" := by
    rintro ⟨p, input⟩ hi
    obtain ⟨c, hc, rfl⟩ := (mem_inputs_iff hwell).mp (hlisted.mem_iff.mp hi)
    exact htyped.input_ne_empty hc
  have hcells : ∀ i ∈ listed, i.1.row < Address.rowCount ∧ i.1.col < Column.count := by
    intro i hi
    obtain ⟨hrow, hcol⟩ := contains_iff.mp (hinside i hi)
    exact ⟨Nat.lt_of_lt_of_le hrow hrows, Nat.lt_of_lt_of_le hcol hcols⟩
  obtain ⟨edits, hparse, rfl⟩ :=
    hlists.parse_eq_ok (fun i hi => hfits i (hlisted.mem_iff.mp hi)) hne hcells
  refine ⟨edits, hparse, fun mode limit => ?_⟩
  have hempty : WellFormed ⟨s.name, s.rows, s.cols, []⟩ :=
    (reachable_empty s.name s.rows s.cols).wellFormed
  obtain ⟨t, shown, happly, ht⟩ := edited_script hempty mode fun e he =>
    hinside (e.address.position, e.input) (List.mem_map_of_mem he)
  refine ⟨t, shown, happly, ?_⟩
  refine recalculate_eq_of_typedAt_eq ht.wellFormed hwell ht.name ht.rows ht.cols
    (fun p => ?_) limit
  rw [ht.cells, lastInput?_of_inputs hwell hlisted, htyped p]
  cases hc : s.cell? p with
  | none =>
    rw [inputAt_of_none hc]
    rfl
  | some c =>
    rw [inputAt_of_cell? hc]
    rfl

/-- `A1` refers to `B1`, whose input looks like a comment. -/
def twoEdits : List Operation := [.editAt "A1" "=B1", .edit ⟨2, true⟩ ⟨0, 1⟩ "#2"]

/-- The two cells, the last one first, after a comment and with an empty line between them. -/
def twoLines : List (List Char) := ["# two".toList, "B1\t#2".toList, [], "A1  =B1\r".toList]

theorem lists_twoLines : Script.Lists twoLines [(⟨0, 1⟩, "#2"), (⟨0, 0⟩, "=B1")] := by
  have hB1 : "B1\t#2".toList =
      (Address.ofPosition ⟨0, 1⟩).text.toList ++ ['\t'] ++ "#2".toList ++ [] := by
    decide +kernel
  have hA1 : "A1  =B1\r".toList =
      (Address.ofPosition ⟨0, 0⟩).text.toList ++ [' ', ' '] ++ "=B1".toList ++ ['\r'] := by
        decide +kernel
  have hcomment : Edit.IsFiller ([] ++ '#' :: " two".toList) := .comment nofun
  unfold twoLines
  rw [hB1, hA1]
  refine .filler hcomment (by decide) (.entry ⟨0, 1⟩ "#2" (by decide) (List.all_eq_true.mp rfl)
    (by decide) nofun ?_)
  exact .filler (.blank nofun) nofun
    (.entry ⟨0, 0⟩ "=B1" (by decide) (List.all_eq_true.mp rfl) (by decide)
      (List.forall_mem_singleton.mpr rfl) .nil)

theorem recalculate_replay_twoLines :
    let s := run ⟨"Sheet1", 1, 2, []⟩ twoEdits
    (∀ o ∈ twoEdits, o.isEdit = true) ∧ s.rows ≤ Address.rowCount ∧ s.cols ≤ Column.count ∧
      (∀ i ∈ s.inputs, Edit.FitsLine i.2) ∧
      Script.Lists twoLines [(⟨0, 1⟩, "#2"), (⟨0, 0⟩, "=B1")] ∧
      [(⟨0, 1⟩, "#2"), (⟨0, 0⟩, "=B1")].Perm s.inputs ∧
      ∃ edits, Script.parse (.ofList (List.intercalate ['\n'] twoLines)) = .ok edits ∧
        ∀ mode limit, ∃ t shown,
          Script.apply ⟨s.name, s.rows, s.cols, []⟩ mode edits = (t, .ok shown) ∧
            t.recalculate limit = s.recalculate limit := by
  intro s
  have hedits : ∀ o ∈ twoEdits, o.isEdit = true := by decide
  have hrows : s.rows ≤ Address.rowCount := by decide
  have hcols : s.cols ≤ Column.count := by decide
  have hinputs : s.inputs = [(⟨0, 0⟩, "=B1"), (⟨0, 1⟩, "#2")] := rfl
  have hfits : ∀ i ∈ s.inputs, Edit.FitsLine i.2 := by
    intro i hi
    rw [hinputs] at hi
    rcases List.mem_pair.mp hi with rfl | rfl
    · exact ⟨by decide, by rintro _ ⟨⟩; rfl, by rintro _ ⟨⟩; decide⟩
    · exact ⟨by decide, by rintro _ ⟨⟩; rfl, by rintro _ ⟨⟩; decide⟩
  have hperm : [(⟨0, 1⟩, "#2"), (⟨0, 0⟩, "=B1")].Perm s.inputs := hinputs ▸ .swap _ _ _
  exact ⟨hedits, hrows, hcols, hfits, lists_twoLines, hperm,
    recalculate_replay rfl hedits hrows hcols hfits lists_twoLines hperm⟩

end Sheet

end Spreadsheet
