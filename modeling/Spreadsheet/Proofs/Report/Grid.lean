import Mathlib.Order.Bounds.Basic
import Spreadsheet.Report.Grid

/-!
# The part of the grid in use

The rows and columns that are shown reach as far as cells that hold something. The last row and
the last column may come from different cells.

- `isGreatest_coordinate`: the greatest row, or column, of a cell among cells.
- `extent?_eq_none_iff`, `extent?_eq_some`: how far the part in use reaches.
- `shownRows_eq`: what is shown of it.
-/

namespace Spreadsheet

namespace Sheet

/-- The position in the greater row and in the greater column of two. -/
def corner (p q : Position) : Position := ⟨max p.row q.row, max p.col q.col⟩

/-- What is greatest among positions if it is so of the two of which a corner is made. -/
theorem isGreatest_coordinate {f : Position → Nat}
    (hf : ∀ p q, f (corner p q) = max (f p) (f q)) (e : Position × Cell) (es : Entries) :
    IsGreatest {n | ∃ d ∈ e :: es, f d.1 = n} (f (es.foldl (fun q d => corner q d.1) e.1)) := by
  induction es generalizing e with
  | nil =>
    refine ⟨⟨e, List.mem_cons_self, rfl⟩, ?_⟩
    rintro n ⟨d, hd, rfl⟩
    obtain rfl := List.mem_singleton.mp hd
    exact Nat.le_refl _
  | cons d es ih =>
    -- the first two count as one cell at their corner
    obtain ⟨⟨c, hc, hgreatest⟩, hle⟩ := ih (corner e.1 d.1, d.2)
    have hcorner :
        max (f e.1) (f d.1) ≤ f (es.foldl (fun q d => corner q d.1) (corner e.1 d.1)) :=
      hf e.1 d.1 ▸ hle ⟨_, List.mem_cons_self, rfl⟩
    rw [List.foldl_cons]
    constructor
    · rcases List.mem_cons.mp hc with rfl | hc
      · rw [hf] at hgreatest
        rcases Nat.le_total (f d.1) (f e.1) with hmax | hmax
        · rw [Nat.max_eq_left hmax] at hgreatest
          exact ⟨e, List.mem_cons_self, hgreatest⟩
        · rw [Nat.max_eq_right hmax] at hgreatest
          exact ⟨d, List.mem_cons_of_mem e List.mem_cons_self, hgreatest⟩
      · exact ⟨c, List.mem_cons_of_mem e (List.mem_cons_of_mem d hc), hgreatest⟩
    · rintro n ⟨b, hb, rfl⟩
      rcases List.mem_cons.mp hb with rfl | hb
      · exact Nat.le_trans (Nat.le_max_left _ _) hcorner
      rcases List.mem_cons.mp hb with rfl | hb
      · exact Nat.le_trans (Nat.le_max_right _ _) hcorner
      · exact hle ⟨b, List.mem_cons_of_mem _ hb, rfl⟩

variable {s : Sheet} {last : Position}

theorem extent?_eq_none_iff : s.extent? = none ↔ s.entries = [] := by
  unfold extent?
  split
  · next h => exact ⟨fun _ => h, fun _ => rfl⟩
  · next h => exact ⟨nofun, fun hempty => nomatch h.symm.trans hempty⟩

/-- The part in use ends with the greatest row and the greatest column of a cell. -/
theorem extent?_eq_some (h : s.extent? = some last) :
    IsGreatest {row | ∃ e ∈ s.entries, e.1.row = row} last.row ∧
      IsGreatest {col | ∃ e ∈ s.entries, e.1.col = col} last.col := by
  unfold extent? at h
  split at h
  · cases h
  · next p c es hentries =>
    obtain rfl := Option.some.inj h
    rw [hentries]
    exact ⟨isGreatest_coordinate (f := Position.row) (fun _ _ => rfl) (p, c) es,
      isGreatest_coordinate (f := Position.col) (fun _ _ => rfl) (p, c) es⟩

/-- All cells up to the last row and column in use are shown. -/
theorem shownRows_eq (h : s.extent? = some last) :
    s.shownRows = (List.range (last.row + 1)).map fun row =>
      (List.range (last.col + 1)).map fun col => s.displayAt ⟨row, col⟩ := by
  rw [shownRows, h]

end Sheet

end Spreadsheet
