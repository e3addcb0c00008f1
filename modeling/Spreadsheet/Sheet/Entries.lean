import Spreadsheet.Address
import Spreadsheet.Value

/-!
# Entries of a grid

The cells of a grid that hold something, as a list of positions and cells in row-major order.

- `Entries.find?`, `Entries.put`, `Entries.erase`: look at, replace and remove
  the cell at a position.
- `Entries.Ordered`: each position comes before all later ones, so that it occurs once.
- `find?_filter`, `find?_put`, `find?_erase`: what a look finds after a change.
- `ordered_put`, `ordered_erase`: the order is kept.
-/

namespace Spreadsheet

namespace Position

theorem before_iff {p q : Position} :
    p.before q = true ↔ p.row < q.row ∨ (p.row = q.row ∧ p.col < q.col) := by
  simp [before]

theorem not_before_self (p : Position) : p.before p = false := by
  simp [before]

theorem before_trans {p q r : Position} (h : p.before q = true) (k : q.before r = true) :
    p.before r = true := by
  rw [before_iff] at *; omega

/-- Of two different positions one comes before the other. -/
theorem before_total {p q : Position} (h : p.before q = false) (k : p ≠ q) :
    q.before p = true := by
  obtain ⟨a, b⟩ := p
  obtain ⟨c, d⟩ := q
  have h' : ¬ (before ⟨a, b⟩ ⟨c, d⟩ = true) := by simp [h]
  rw [before_iff] at h' ⊢
  simp only [ne_eq, mk.injEq] at k
  simp only at h' ⊢
  omega

end Position

/-- The cells that hold something, with their positions. -/
abbrev Entries := List (Position × Cell)

namespace Entries

/-- The cell at a position. -/
def find? (p : Position) : Entries → Option Cell
  | [] => none
  | (q, c) :: rest => if q = p then some c else find? p rest

/-- Puts a cell at a position, in place of any cell there. -/
def put (p : Position) (c : Cell) : Entries → Entries
  | [] => [(p, c)]
  | (q, d) :: rest =>
    if p.before q then (p, c) :: (q, d) :: rest
    else if q = p then (p, c) :: rest
    else (q, d) :: put p c rest

/-- Removes the cell at a position. -/
def erase (p : Position) (es : Entries) : Entries := es.filter fun e => e.1 != p

/-- Each position comes before all later ones. -/
def Ordered (es : Entries) : Prop := es.Pairwise fun a b => a.1.before b.1 = true

/-! ## Looking after a change -/

@[simp] theorem find?_nil (p : Position) : find? p [] = none := rfl

theorem find?_cons (p q : Position) (c : Cell) (es : Entries) :
    find? p ((q, c) :: es) = if q = p then some c else find? p es := rfl

/-- Where positions are kept or dropped, a look finds what was there or nothing. -/
theorem find?_filter (keep : Position → Bool) (p : Position) (es : Entries) :
    find? p (es.filter fun e => keep e.1) = if keep p then find? p es else none := by
  induction es with
  | nil => simp
  | cons e rest ih =>
    obtain ⟨q, c⟩ := e
    rw [List.filter_cons, find?_cons]
    by_cases hq : q = p
    · subst hq
      by_cases hkeep : keep q = true
      · rw [if_pos hkeep, find?_cons, if_pos rfl, if_pos hkeep, if_pos rfl]
      · rw [if_neg hkeep, ih, if_neg hkeep, if_neg hkeep]
    · rw [if_neg hq, ← ih]
      split
      · rw [find?_cons, if_neg hq]
      · rfl

@[simp] theorem find?_erase (p q : Position) (es : Entries) :
    find? p (es.erase q) = if q = p then none else find? p es := by
  rw [erase, find?_filter fun r => r != q]
  by_cases hq : q = p
  · rw [if_pos hq, if_neg (by simp [hq])]
  · rw [if_neg hq, if_pos (by simpa using Ne.symm hq)]

theorem find?_put (p q : Position) (c : Cell) (es : Entries) :
    find? p (es.put q c) = if q = p then some c else find? p es := by
  induction es with
  | nil => simp [put, find?_cons]
  | cons e rest ih =>
    obtain ⟨r, d⟩ := e
    rw [put]
    split
    · next hb => rw [find?_cons]
    · split
      · next hrq => subst hrq; rw [find?_cons, find?_cons]; split <;> rfl
      · next hrq => rw [find?_cons, find?_cons, ih]; grind

/-! ## The order is kept -/

theorem mem_put {p : Position} {c : Cell} {es : Entries} {e : Position × Cell}
    (h : e ∈ es.put p c) : e = (p, c) ∨ e ∈ es := by
  induction es with
  | nil => simpa [put] using h
  | cons a rest ih => grind [put]

theorem ordered_put {es : Entries} (h : es.Ordered) (p : Position) (c : Cell) :
    (es.put p c).Ordered := by
  induction es with
  | nil => simp [put, Ordered]
  | cons a rest ih =>
    obtain ⟨q, d⟩ := a
    have hr := List.pairwise_cons.mp h
    rw [put]
    split
    · next hb =>
      refine List.pairwise_cons.mpr ⟨fun e he => ?_, h⟩
      rcases List.mem_cons.mp he with rfl | he
      · exact hb
      · exact Position.before_trans hb (hr.1 e he)
    · next hb =>
      split
      · next hqp => subst hqp; exact List.pairwise_cons.mpr ⟨hr.1, hr.2⟩
      · next hqp =>
        refine List.pairwise_cons.mpr ⟨fun e he => ?_, ih hr.2⟩
        rcases mem_put he with rfl | he
        · exact Position.before_total (by simpa using hb) fun h => hqp h.symm
        · exact hr.1 e he

theorem ordered_erase {es : Entries} (h : es.Ordered) (p : Position) : (es.erase p).Ordered :=
  List.Pairwise.filter _ h

end Entries

end Spreadsheet
