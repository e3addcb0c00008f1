import Spreadsheet.Proofs.Outcome
import Spreadsheet.Proofs.Sheet.Entries
import Spreadsheet.Proofs.Sheet.Inputs
import Spreadsheet.Sheet.Editing

/-!
# Changes of a sheet

When a change is made, what a look at a cell finds after it, and that
well-formed sheets stay so.

- `eq_of_cell?_eq`: well-formed sheets in which every look finds the same are the same.
- `resolve_eq_ok_iff`: the addresses of cells.
- `setInput_eq_ok_iff`, `setDisplay_eq_ok_iff`, `edit_eq_ok_iff`: the changes
  that may be refused.
- `cell?_store`: what is found afterwards.
- `Sheet.mapCells`: the change that a recalculation is one of.
- `WellFormed.setInput`, `WellFormed.edit` and their like: each change keeps a
  sheet well-formed.
-/

namespace Spreadsheet

/-- A cell with a formula begins with `=`. -/
theorem Cell.isFormula_of_body {c : Cell} {formula : String}
    (h : formulaBody? c.input = some formula) : c.isFormula = true := by
  rw [Cell.isFormula, h]
  rfl

/-- A cell that holds no formula is a literal. -/
theorem Cell.body_eq_none {c : Cell} (h : ¬ c.isFormula = true) : formulaBody? c.input = none :=
  Cell.isFormula_eq_false_iff.mp (Bool.eq_false_iff.mpr h)

/-- Something was typed into a cell with a formula. -/
theorem Cell.input_ne_empty {c : Cell} (h : c.isFormula = true) : c.input ≠ "" := by
  intro hempty
  rw [Cell.isFormula, hempty] at h
  cases h

/-- A cell with a formula is kept whatever it shows. -/
theorem Cell.isBlank_eq_false {c : Cell} (h : c.isFormula = true) : c.isBlank = false := by
  rw [Cell.isBlank, Bool.and_eq_false_iff]
  exact .inl (by simpa using Cell.input_ne_empty h)

namespace Sheet

variable {s t : Sheet} {p q : Position}

/-- Well-formed sheets in which every look finds the same are the same. -/
theorem eq_of_cell?_eq (hs : s.WellFormed) (ht : t.WellFormed) (hname : s.name = t.name)
    (hrows : s.rows = t.rows) (hcols : s.cols = t.cols) (hcells : ∀ p, s.cell? p = t.cell? p) :
    s = t := by
  have hentries : s.entries = t.entries := Entries.eq_of_find?_eq hs.ordered ht.ordered hcells
  obtain ⟨_, _, _, _⟩ := s
  obtain ⟨_, _, _, _⟩ := t
  cases hname
  cases hrows
  cases hcols
  cases hentries
  rfl

/-- On a well-formed sheet, cells are kept only inside. -/
theorem WellFormed.contains_of_cell? (hs : s.WellFormed) {c : Cell} (h : s.cell? p = some c) :
    s.contains p = true :=
  hs.inside (p, c) (Entries.mem_of_find?_eq_some h)

/-! ## When a change is made -/

theorem contains_iff : s.contains p = true ↔ p.row < s.rows ∧ p.col < s.cols := by
  rw [contains, Bool.and_eq_true, decide_eq_true_iff, decide_eq_true_iff]

theorem checkInside_eq_ok_iff {u : Unit} : s.checkInside p = .ok u ↔ s.contains p = true := by
  unfold checkInside
  split
  · next h => exact ⟨fun _ => h, fun _ => rfl⟩
  · next h => exact ⟨nofun, fun hp => absurd hp h⟩

/-- An address is that of a cell if it can be read and its position is in the grid. -/
theorem resolve_eq_ok_iff {a : String} {address : Address} :
    s.resolve a = .ok address ↔
      Address.parse a = .ok address ∧ s.contains address.position = true := by
  unfold resolve
  cases Address.parse a with
  | error e => exact ⟨nofun, nofun⟩
  | ok b =>
    show (s.checkInside b.position >>= fun _ => .ok b) = .ok address ↔ _
    rw [bind_eq_ok_iff]
    constructor
    · rintro ⟨_, hinside, h⟩
      cases h
      exact ⟨rfl, checkInside_eq_ok_iff.mp hinside⟩
    · rintro ⟨h, hinside⟩
      cases h
      exact ⟨(), checkInside_eq_ok_iff.mpr hinside, rfl⟩

/-- An input is taken exactly if the position is inside, and then the cell shows the input. -/
theorem setInput_eq_ok_iff {input : String} :
    s.setInput p input = .ok t ↔ s.contains p = true ∧ t = s.store p (.ofInput input) := by
  constructor
  · intro h
    obtain ⟨_, hp, h⟩ := bind_eq_ok_iff.mp h
    cases h
    exact ⟨checkInside_eq_ok_iff.mp hp, rfl⟩
  · rintro ⟨hp, rfl⟩
    exact bind_eq_ok_iff.mpr ⟨(), checkInside_eq_ok_iff.mpr hp, rfl⟩

/-- What is shown is changed exactly if the position is inside, and the input is kept. -/
theorem setDisplay_eq_ok_iff {display : String} :
    s.setDisplay p display = .ok t ↔
      s.contains p = true ∧ t = s.store p ⟨s.inputAt p, display⟩ := by
  constructor
  · intro h
    obtain ⟨_, hp, h⟩ := bind_eq_ok_iff.mp h
    cases h
    exact ⟨checkInside_eq_ok_iff.mp hp, rfl⟩
  · rintro ⟨hp, rfl⟩
    exact bind_eq_ok_iff.mpr ⟨(), checkInside_eq_ok_iff.mpr hp, rfl⟩

/-- An edit types the input, and then calculates all formulas or shows what this
one input is worth. -/
theorem edit_eq_ok_iff {mode : EditMode} {input shown : String} :
    s.edit mode p input = .ok (t, shown) ↔ ∃ typed, s.setInput p input = .ok typed ∧
      ((mode.recalculates = true ∧ t = typed.recalculate mode.limit) ∨
        (mode.recalculates = false ∧
          typed.setDisplay p (typed.displayOf mode.limit input) = .ok t)) ∧
      shown = t.displayAt p := by
  unfold edit
  cases mode.recalculates with
  | true =>
    constructor
    · intro h
      obtain ⟨typed, htyped, h⟩ := bind_eq_ok_iff.mp h
      cases h
      exact ⟨typed, htyped, .inl ⟨rfl, rfl⟩, rfl⟩
    · rintro ⟨typed, htyped, ⟨-, rfl⟩ | ⟨hmode, -⟩, rfl⟩
      · exact bind_eq_ok_iff.mpr ⟨typed, htyped, rfl⟩
      · cases hmode
  | false =>
    constructor
    · intro h
      obtain ⟨typed, htyped, h⟩ := bind_eq_ok_iff.mp h
      obtain ⟨u, hu, h⟩ := bind_eq_ok_iff.mp h
      cases h
      exact ⟨typed, htyped, .inr ⟨rfl, hu⟩, rfl⟩
    · rintro ⟨typed, htyped, ⟨hmode, -⟩ | ⟨-, ht⟩, rfl⟩
      · cases hmode
      · exact bind_eq_ok_iff.mpr ⟨typed, htyped, bind_eq_ok_iff.mpr ⟨t, ht, rfl⟩⟩

/-- An edit changes nothing of a sheet but its cells. -/
theorem edit_frame {mode : EditMode} {input shown : String}
    (h : s.edit mode p input = .ok (t, shown)) :
    t.name = s.name ∧ t.rows = s.rows ∧ t.cols = s.cols := by
  obtain ⟨typed, htyped, hthen, -⟩ := edit_eq_ok_iff.mp h
  obtain ⟨-, rfl⟩ := setInput_eq_ok_iff.mp htyped
  rcases hthen with ⟨-, rfl⟩ | ⟨-, ht⟩
  · exact ⟨rfl, rfl, rfl⟩
  · obtain ⟨-, rfl⟩ := setDisplay_eq_ok_iff.mp ht
    exact ⟨rfl, rfl, rfl⟩

/-- An edit leaves the dimensions as they are. -/
theorem contains_edit {mode : EditMode} {input shown : String}
    (h : s.edit mode p input = .ok (t, shown)) (q : Position) :
    t.contains q = s.contains q := by
  obtain ⟨-, hrows, hcols⟩ := edit_frame h
  rw [contains, hrows, hcols, contains]

/-! ## What is found afterwards -/

/-- A cell that is stored is found, unless it is blank, and no other cell is touched. -/
theorem cell?_store (c : Cell) :
    (s.store q c).cell? p =
      if q = p then (if c.isBlank then none else some c) else s.cell? p := by
  unfold store cell?
  dsimp only
  by_cases hc : c.isBlank = true
  · rw [if_pos hc, if_pos hc, Entries.find?_erase]
  · rw [if_neg hc, if_neg hc, Entries.find?_put]

/-! ## Cells changed where they are -/

/-- The sheet with its cells changed where they are. -/
def mapCells (s : Sheet) (f : Position → Cell → Cell) : Sheet :=
  { s with entries := s.entries.map fun e => (e.1, f e.1 e.2) }

/-- A recalculation goes through all cells, and all of them look at the sheet as
it was before. -/
theorem recalculate_eq_mapCells (s : Sheet) (limit : Nat) :
    s.recalculate limit = s.mapCells fun _ => s.refresh limit := rfl

theorem mapCells_congr {f g : Position → Cell → Cell}
    (h : ∀ e ∈ s.entries, f e.1 e.2 = g e.1 e.2) : s.mapCells f = s.mapCells g := by
  have hmap : s.entries.map (fun e => (e.1, f e.1 e.2)) =
      s.entries.map fun e => (e.1, g e.1 e.2) :=
    List.map_congr_left fun e he => congrArg (Prod.mk e.1) (h e he)
  rw [mapCells, hmap]
  rfl

theorem mapCells_id (s : Sheet) : (s.mapCells fun _ c => c) = s := by
  rw [mapCells, List.map_id']

theorem mapCells_mapCells (s : Sheet) (f g : Position → Cell → Cell) :
    (s.mapCells f).mapCells g = s.mapCells fun p c => g p (f p c) := by
  unfold mapCells
  rw [List.map_map]
  rfl

/-- A change of all cells is found in each of them. -/
theorem cell?_mapCells (s : Sheet) (f : Position → Cell → Cell) (p : Position) :
    (s.mapCells f).cell? p = (s.cell? p).map (f p) :=
  Entries.find?_map f p s.entries

theorem cell?_recalculate (s : Sheet) (limit : Nat) (p : Position) :
    (s.recalculate limit).cell? p = (s.cell? p).map (s.refresh limit) := by
  rw [recalculate_eq_mapCells, cell?_mapCells]

/-- What was typed is the same if each cell keeps it. -/
theorem sameInputs_mapCells {f : Position → Cell → Cell} (hf : ∀ p c, (f p c).input = c.input) :
    SameInputs (s.mapCells f) s where
  rows := rfl
  cols := rfl
  inputs p := by
    unfold inputAt
    rw [cell?_mapCells]
    cases s.cell? p with
    | none => rfl
    | some c => exact hf p c

theorem sameInputs_recalculate (s : Sheet) (limit : Nat) : SameInputs (s.recalculate limit) s :=
  sameInputs_mapCells fun _ => refresh_input s limit

/-! ## Cells calculated again -/

/-- A formula shows what it is worth. -/
theorem refresh_of_isFormula {limit : Nat} {c : Cell} (hc : c.isFormula = true) :
    s.refresh limit c = ⟨c.input, s.displayOf limit c.input⟩ :=
  if_pos hc

/-- A literal goes on showing what it showed. -/
theorem refresh_of_not_isFormula {limit : Nat} {c : Cell} (hc : ¬ c.isFormula = true) :
    s.refresh limit c = c :=
  if_neg hc

/-- A recalculation takes no input away, so that formulas stay formulas. -/
theorem isFormula_refresh (s : Sheet) (limit : Nat) (c : Cell) :
    (s.refresh limit c).isFormula = c.isFormula := by
  rw [Cell.isFormula, Cell.isFormula, refresh_input]

theorem isBlank_refresh (s : Sheet) (limit : Nat) (c : Cell) :
    (s.refresh limit c).isBlank = c.isBlank := by
  by_cases hc : c.isFormula = true
  · rw [Cell.isBlank_eq_false hc,
      Cell.isBlank_eq_false ((isFormula_refresh s limit c).trans hc)]
  · rw [refresh, if_neg hc]

/-- An input that was just typed shows what it is worth once it is calculated. -/
theorem refresh_ofInput (s : Sheet) (limit : Nat) (input : String) :
    s.refresh limit (.ofInput input) = ⟨input, s.displayOf limit input⟩ := by
  by_cases hformula : (Cell.ofInput input).isFormula = true
  · exact refresh_of_isFormula hformula
  · have hliteral : formulaBody? input = none := Cell.body_eq_none hformula
    rw [refresh_of_not_isFormula hformula, displayOf_literal s limit hliteral]
    rfl

/-- A cell that shows what its input is worth is blank only if the input is empty: a formula is
kept even where its value shows as nothing. -/
theorem isBlank_displayOf (s : Sheet) (limit : Nat) (input : String) :
    (⟨input, s.displayOf limit input⟩ : Cell).isBlank = input.isEmpty := by
  rw [← refresh_ofInput, isBlank_refresh, Cell.isBlank_ofInput]

/-! ## Well-formed sheets -/

namespace WellFormed

/-- Where an input is taken, the cell stays inside and in its place. -/
theorem setInput (hs : s.WellFormed) {input : String} (h : s.setInput p input = .ok t) :
    t.WellFormed := by
  obtain ⟨hp, rfl⟩ := setInput_eq_ok_iff.mp h
  exact wellFormed_store hs hp _

theorem setDisplay (hs : s.WellFormed) {display : String} (h : s.setDisplay p display = .ok t) :
    t.WellFormed := by
  obtain ⟨hp, rfl⟩ := setDisplay_eq_ok_iff.mp h
  exact wellFormed_store hs hp _

theorem clear (hs : s.WellFormed) (p : Position) : (s.clear p).WellFormed where
  inside e he := hs.inside e (List.mem_filter.mp he).1
  notBlank e he := hs.notBlank e (List.mem_filter.mp he).1
  ordered := Entries.ordered_erase hs.ordered p

theorem resize (hs : s.WellFormed) (rows cols : Nat) : (s.resize rows cols).WellFormed where
  inside _ he := (List.mem_filter.mp he).2
  notBlank e he := hs.notBlank e (List.mem_filter.mp he).1
  ordered := hs.ordered.filter _

theorem rename (hs : s.WellFormed) (name : String) : (s.rename name).WellFormed where
  inside := hs.inside
  notBlank := hs.notBlank
  ordered := hs.ordered

/-- A change of all cells keeps a sheet well-formed if it makes no cell blank. -/
theorem mapCells (hs : s.WellFormed) {f : Position → Cell → Cell}
    (hf : ∀ p c, (f p c).isBlank = c.isBlank) : (s.mapCells f).WellFormed where
  inside e he := by
    obtain ⟨d, hd, rfl⟩ := List.mem_map.mp he
    exact hs.inside d hd
  notBlank e he := by
    obtain ⟨d, hd, rfl⟩ := List.mem_map.mp he
    exact (hf d.1 d.2).trans (hs.notBlank d hd)
  ordered := Entries.ordered_map f hs.ordered

theorem recalculate (hs : s.WellFormed) (limit : Nat) : (s.recalculate limit).WellFormed :=
  hs.mapCells fun _ => isBlank_refresh s limit

/-- An edit is made of changes each of which keeps a sheet well-formed. -/
theorem edit (hs : s.WellFormed) {mode : EditMode} {input shown : String}
    (h : s.edit mode p input = .ok (t, shown)) : t.WellFormed := by
  obtain ⟨typed, htyped, ⟨-, rfl⟩ | ⟨-, ht⟩, -⟩ := edit_eq_ok_iff.mp h
  · exact (hs.setInput htyped).recalculate mode.limit
  · exact (hs.setInput htyped).setDisplay ht

theorem editAt (hs : s.WellFormed) {address input shown : String}
    (h : s.editAt address input = .ok (t, shown)) : t.WellFormed := by
  obtain ⟨a, -, h⟩ := bind_eq_ok_iff.mp h
  exact hs.edit h

end WellFormed

end Sheet

end Spreadsheet
