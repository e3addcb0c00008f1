import Spreadsheet.Sheet.Entries

/-!
# Sheets

A sheet is a grid of a fixed number of rows and columns, of which only the cells that
hold something are kept.

- `Sheet`, `Sheet.new`, `Sheet.standard`: a sheet, and the empty ones.
- `Sheet.setInput`, `Sheet.setDisplay`, `Sheet.clear`, `Sheet.resize`,
  `Sheet.rename`: the changes.
- `Sheet.resolve`, `Sheet.lookUp`: cells by the text of an address.
- `Sheet.WellFormed`: what holds of every sheet that is made from an empty one by these
  changes; each change keeps it.
-/

namespace Spreadsheet

/-- A grid of cells. -/
structure Sheet where
  name : String
  rows : Nat
  cols : Nat
  entries : Entries

namespace Sheet

/-- Why a cell cannot be reached. -/
inductive Error where
  /-- The text is no address. -/
  | address (error : Address.Error)
  /-- The position is not in the grid. -/
  | outside (position : Position) (rows cols : Nat)
deriving DecidableEq, Repr

/-- The wording of a sheet error. Positions are shown as addresses, for the rows for which
`Address.text` is meant. -/
def Error.message : Error → String
  | address error => error.message
  | outside position rows cols =>
    s!"Cell {(Address.ofPosition position).text} is outside the {rows}x{cols} sheet"

/-- An empty sheet. -/
def new (rows cols : Nat) : Sheet := ⟨"Sheet1", rows, cols, []⟩

/-- The empty sheet of the usual size: rows 1 to 100 and columns `A` to `Z`. -/
def standard : Sheet := new 100 26

/-! ## Looking -/

/-- Is the position in the grid? -/
def contains (s : Sheet) (p : Position) : Bool := p.row < s.rows && p.col < s.cols

/-- The cell at a position, if it holds something. -/
def cell? (s : Sheet) (p : Position) : Option Cell := s.entries.find? p

/-- What is shown at a position. -/
def displayAt (s : Sheet) (p : Position) : String := ((s.cell? p).map Cell.display).getD ""

/-- How many cells hold something. -/
def size (s : Sheet) : Nat := s.entries.length

/-- The cells that hold a formula. -/
def formulas (s : Sheet) : Entries := s.entries.filter fun e => e.2.isFormula

/-- Refuses a position that is not in the grid. -/
def checkInside (s : Sheet) (p : Position) : Except Error Unit :=
  if s.contains p then .ok () else .error (.outside p s.rows s.cols)

/-- Reads an address of a cell in the grid. -/
def resolve (s : Sheet) (text : String) : Except Error Address := do
  let address ← (Address.parse text).mapError .address
  s.checkInside address.position
  return address

/-- The cell at an address, if it holds something. -/
def lookUp (s : Sheet) (text : String) : Except Error (Option Cell) := do
  let address ← s.resolve text
  return s.cell? address.position

/-! ## Changing -/

/-- Keeps a cell at a position, or nothing if the cell is blank. -/
def store (s : Sheet) (p : Position) (c : Cell) : Sheet :=
  { s with entries := if c.isBlank then s.entries.erase p else s.entries.put p c }

/-- Types an input into a cell, which then shows it. An empty input leaves nothing there. -/
def setInput (s : Sheet) (p : Position) (input : String) : Except Error Sheet := do
  s.checkInside p
  return s.store p (.ofInput input)

/-- Changes what a cell shows, whether or not something was typed into it. -/
def setDisplay (s : Sheet) (p : Position) (display : String) : Except Error Sheet := do
  s.checkInside p
  return s.store p ⟨((s.cell? p).map Cell.input).getD "", display⟩

/-- Removes what a cell holds. -/
def clear (s : Sheet) (p : Position) : Sheet := { s with entries := s.entries.erase p }

/-- Gives the sheet other dimensions; cells outside them are dropped. -/
def resize (s : Sheet) (rows cols : Nat) : Sheet :=
  { s with
    rows := rows
    cols := cols
    entries := s.entries.filter fun e => e.1.row < rows && e.1.col < cols }

/-- Gives the sheet another name. -/
def rename (s : Sheet) (name : String) : Sheet := { s with name := name }

/-! ## Well-formed sheets -/

/-- What holds of every sheet that is made from an empty one. -/
structure WellFormed (s : Sheet) : Prop where
  /-- Every cell kept is in the grid. -/
  inside : ∀ e ∈ s.entries, s.contains e.1 = true
  /-- Every cell kept holds something. -/
  notBlank : ∀ e ∈ s.entries, e.2.isBlank = false
  /-- Cells are kept in row-major order, each position once. -/
  ordered : s.entries.Ordered

theorem wellFormed_new (rows cols : Nat) : (new rows cols).WellFormed where
  inside := by simp [new]
  notBlank := by simp [new]
  ordered := List.Pairwise.nil

section

variable {s : Sheet} {p : Position} {c : Cell}

theorem mem_entries_store {e : Position × Cell} (h : e ∈ (s.store p c).entries) :
    (e = (p, c) ∧ c.isBlank = false) ∨ e ∈ s.entries := by
  unfold store at h
  dsimp only at h
  by_cases hc : c.isBlank = true
  · rw [if_pos hc] at h
    exact .inr (List.mem_filter.mp h).1
  · rw [if_neg hc] at h
    exact (Entries.mem_put h).imp_left fun he => ⟨he, Bool.eq_false_iff.mpr hc⟩

theorem ordered_store (h : s.entries.Ordered) (p : Position) (c : Cell) :
    (s.store p c).entries.Ordered := by
  unfold store
  dsimp only
  split
  · exact Entries.ordered_erase h p
  · exact Entries.ordered_put h p c

theorem wellFormed_store (h : s.WellFormed) (hp : s.contains p = true) (c : Cell) :
    (s.store p c).WellFormed := by
  refine ⟨fun e he => ?_, fun e he => ?_, ordered_store h.ordered p c⟩
  · rcases mem_entries_store he with ⟨rfl, -⟩ | he
    · exact hp
    · exact h.inside e he
  · rcases mem_entries_store he with ⟨rfl, hc⟩ | he
    · exact hc
    · exact h.notBlank e he

end

end Sheet

end Spreadsheet
