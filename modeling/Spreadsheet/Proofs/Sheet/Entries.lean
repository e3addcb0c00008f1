import Spreadsheet.Sheet.Entries

/-!
# Entries as partial functions

Ordered entries are determined by what a look finds in them.

- `find?_eq_some_iff`: a look at ordered entries finds what is there.
- `eq_of_find?_eq`: ordered entries in which every look finds the same are the same.
- `find?_map`, `ordered_map`: entries whose cells are changed where they are.
-/

namespace Spreadsheet

namespace Entries

/-- No position comes again after the first of ordered entries. -/
theorem Ordered.ne_of_mem {e : Position × Cell} {es : Entries} (h : Ordered (e :: es))
    {f : Position × Cell} (hf : f ∈ es) : e.1 ≠ f.1 := by
  intro heq
  have hbefore := (List.pairwise_cons.mp h).1 f hf
  rw [heq, Position.not_before_self] at hbefore
  cases hbefore

theorem Ordered.nodup_positions {es : Entries} (h : es.Ordered) : (es.map Prod.fst).Nodup :=
  List.pairwise_map.mpr <| h.imp fun hbefore heq => by
    rw [heq, Position.not_before_self] at hbefore
    cases hbefore

theorem Ordered.nodup {es : Entries} (h : es.Ordered) : es.Nodup :=
  List.Pairwise.of_map Prod.fst
    (fun _ _ hne heq => hne (congrArg Prod.fst heq)) h.nodup_positions

theorem mem_of_find?_eq_some {p : Position} {c : Cell} {es : Entries}
    (h : es.find? p = some c) : (p, c) ∈ es := by
  induction es with
  | nil => cases h
  | cons e es ih =>
    obtain ⟨q, d⟩ := e
    rw [find?_cons] at h
    by_cases hq : q = p
    · rw [if_pos hq] at h
      cases h
      rw [hq]
      exact List.mem_cons_self
    · rw [if_neg hq] at h
      exact List.mem_cons_of_mem _ (ih h)

theorem find?_eq_some_iff {es : Entries} (hes : es.Ordered) {p : Position} {c : Cell} :
    es.find? p = some c ↔ (p, c) ∈ es := by
  constructor
  · exact mem_of_find?_eq_some
  · intro h
    induction es with
    | nil => cases h
    | cons e es ih =>
      obtain ⟨q, d⟩ := e
      rw [find?_cons]
      rcases List.mem_cons.mp h with heq | h
      · cases heq
        exact if_pos rfl
      · rw [if_neg (hes.ne_of_mem h)]
        exact ih hes.of_cons h

/-- Ordered entries in which every look finds the same are the same. -/
theorem eq_of_find?_eq {es fs : Entries} (hes : es.Ordered) (hfs : fs.Ordered)
    (h : ∀ p, es.find? p = fs.find? p) : es = fs := by
  have hmem : ∀ e, e ∈ es ↔ e ∈ fs := by
    rintro ⟨p, c⟩
    rw [← find?_eq_some_iff hes, ← find?_eq_some_iff hfs, h]
  -- the same entries in the same order
  have hperm : es.Perm fs := (List.perm_ext_iff_of_nodup hes.nodup hfs.nodup).mpr hmem
  refine hperm.eq_of_pairwise (fun a b _ _ hab hba => ?_) hes hfs
  have := Position.before_trans hab hba
  rw [Position.not_before_self] at this
  cases this

/-! ## Cells changed where they are -/

section

variable (f : Position → Cell → Cell)

theorem find?_map (p : Position) (es : Entries) :
    find? p (es.map fun e => (e.1, f e.1 e.2)) = (es.find? p).map (f p) := by
  induction es with
  | nil => rfl
  | cons e es ih =>
    obtain ⟨q, d⟩ := e
    rw [List.map_cons, find?_cons, find?_cons, ih]
    by_cases hq : q = p
    · rw [if_pos hq, if_pos hq, hq]
      rfl
    · rw [if_neg hq, if_neg hq]

theorem ordered_map {es : Entries} (h : es.Ordered) :
    Ordered (es.map fun e => (e.1, f e.1 e.2)) :=
  List.pairwise_map.mpr h

end

end Entries

end Spreadsheet
