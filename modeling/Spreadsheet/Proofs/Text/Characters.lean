import Mathlib.Data.List.DropRight
import Mathlib.Tactic.ByContra
import Spreadsheet.Text.Blank

/-!
# Letters, digits and blank characters

No character is two of these. A text without blank characters has no blank ends.

- `toNat_of_isDigit`, `toNat_of_isAlpha`: where digits and letters lie.
- `isDigit_of_isAlpha`, `isBlank_of_isDigit` and their like: what they are not.
- `takeWhile_append_of_stop`, `dropWhile_append_of_stop`: a run of characters ends where one
  comes that does not belong to it.
- `rdropWhile_append_cons`: only what follows the last other character is dropped from an end.
- `trim_of_forall`: nothing is trimmed off a text without blank characters.
- `trim_cons_of_not_blank`, `trim_trimEnd`: ends may be trimmed off one after the other.
-/

namespace Spreadsheet

namespace Text

theorem toNat_of_isDigit {c : Char} (h : c.isDigit = true) : 48 ≤ c.toNat ∧ c.toNat ≤ 57 := by
  simp only [Char.isDigit, Bool.and_eq_true, decide_eq_true_eq] at h
  exact ⟨UInt32.le_iff_toNat_le.mp h.1, UInt32.le_iff_toNat_le.mp h.2⟩

theorem toNat_of_isAlpha {c : Char} (h : c.isAlpha = true) :
    65 ≤ c.toNat ∧ c.toNat ≤ 90 ∨ 97 ≤ c.toNat ∧ c.toNat ≤ 122 := by
  rcases Bool.or_eq_true_iff.mp h with hupper | hlower
  · obtain ⟨hmin, hmax⟩ := of_decide_eq_true hupper
    exact .inl ⟨UInt32.le_iff_toNat_le.mp hmin, UInt32.le_iff_toNat_le.mp hmax⟩
  · obtain ⟨hmin, hmax⟩ := Bool.and_eq_true_iff.mp hlower
    have hmin := of_decide_eq_true hmin
    have hmax := of_decide_eq_true hmax
    exact .inr ⟨UInt32.le_iff_toNat_le.mp hmin, UInt32.le_iff_toNat_le.mp hmax⟩

theorem isDigit_of_isAlpha {c : Char} (h : c.isAlpha = true) : c.isDigit = false := by
  by_contra hdigit
  have halpha := toNat_of_isAlpha h
  have hdigit := toNat_of_isDigit (by simpa using hdigit)
  omega

theorem isAlpha_of_isDigit {c : Char} (h : c.isDigit = true) : c.isAlpha = false := by
  by_contra halpha
  rw [isDigit_of_isAlpha (by simpa using halpha)] at h
  cases h

theorem isBlank_of_isDigit {c : Char} (h : c.isDigit = true) : isBlank c = false := by
  have := toNat_of_isDigit h
  simp [isBlank]
  omega

theorem isBlank_of_isAlpha {c : Char} (h : c.isAlpha = true) : isBlank c = false := by
  have := toNat_of_isAlpha h
  simp [isBlank]
  omega

section

variable {p : Char → Bool} {cs tail : List Char} (h : ∀ c ∈ cs, p c = true)
  (hstop : ∀ c ∈ tail.head?, p c = false)

include h hstop

/-- A run of characters ends where one comes that does not belong to it. -/
theorem takeWhile_append_of_stop : (cs ++ tail).takeWhile p = cs := by
  rw [List.takeWhile_append_of_pos h]
  cases tail with
  | nil => exact List.append_nil cs
  | cons c tail => rw [List.takeWhile_cons_of_neg (by simp [hstop c rfl]), List.append_nil]

theorem dropWhile_append_of_stop : (cs ++ tail).dropWhile p = tail := by
  rw [List.dropWhile_append_of_pos h]
  cases tail with
  | nil => rfl
  | cons c tail => exact List.dropWhile_cons_of_neg (by simp [hstop c rfl])

end

/-- Nothing is trimmed off a text without blank characters. -/
theorem trim_of_forall {cs : List Char} (h : ∀ c ∈ cs, isBlank c = false) : trim cs = cs := by
  have hdrop {ds : List Char} (hds : ∀ c ∈ ds, isBlank c = false) :
      ds.dropWhile isBlank = ds := by
    cases ds with
    | nil => rfl
    | cons d ds => exact List.dropWhile_cons_of_neg (by simp [hds d List.mem_cons_self])
  unfold trim trimEnd trimStart
  rw [hdrop h, hdrop fun c hc => h c (List.mem_reverse.mp hc), List.reverse_reverse]

/-! ## Ends -/

/-- Of what follows a character that is not dropped, at most the end is. -/
theorem rdropWhile_append_cons {p : Char → Bool} {c : Char} (hc : p c = false)
    (cs rest : List Char) : (cs ++ c :: rest).rdropWhile p = cs ++ c :: rest.rdropWhile p := by
  induction rest using List.reverseRecOn with
  | nil => exact List.rdropWhile_concat_neg _ _ _ (by simp [hc])
  | append_singleton rest d ih =>
    rw [← List.cons_append, ← List.append_assoc]
    by_cases hd : p d = true
    · rw [List.rdropWhile_concat_pos _ _ _ hd, List.rdropWhile_concat_pos _ _ _ hd, ih]
    · rw [List.rdropWhile_concat_neg _ _ _ hd, List.rdropWhile_concat_neg _ _ _ hd,
        List.append_assoc]
      rfl

theorem trimEnd_append_cons {c : Char} (hc : isBlank c = false) (cs rest : List Char) :
    trimEnd (cs ++ c :: rest) = cs ++ c :: trimEnd rest :=
  rdropWhile_append_cons hc cs rest

theorem trimEnd_trimEnd (cs : List Char) : trimEnd (trimEnd cs) = trimEnd cs :=
  List.rdropWhile_idempotent isBlank cs

/-- Of a text that starts with a character that is not blank, only the end is trimmed. -/
theorem trim_cons_of_not_blank {c : Char} (hc : isBlank c = false) (cs : List Char) :
    trim (c :: cs) = c :: trimEnd cs := by
  rw [trim, trimStart_cons_of_not_blank hc]
  exact trimEnd_append_cons hc [] cs

/-- The end may be trimmed before the start. -/
theorem trim_trimEnd (cs : List Char) : trim (trimEnd cs) = trim cs := by
  have hblanks : ∀ c ∈ cs.takeWhile isBlank, isBlank c = true :=
    fun c hc => List.mem_takeWhile_imp hc
  have hsplit : cs = cs.takeWhile isBlank ++ trimStart cs :=
    List.takeWhile_append_dropWhile.symm
  generalize cs.takeWhile isBlank = blanks at hblanks hsplit
  cases hstart : trimStart cs with
  | nil =>
    -- nothing but blank characters
    rw [hstart, List.append_nil] at hsplit
    have hend : trimEnd cs = [] := by
      rw [hsplit]
      exact List.rdropWhile_eq_nil_iff.mpr hblanks
    rw [hend, trim, trim, hstart]
    rfl
  | cons c rest =>
    have hc : isBlank c = false := by
      have := List.head?_dropWhile_not isBlank cs
      rw [trimStart] at hstart
      rw [hstart] at this
      simpa using this
    rw [hstart] at hsplit
    calc trim (trimEnd cs)
        = trimEnd (trimStart (blanks ++ c :: trimEnd rest)) := by
          rw [hsplit, trimEnd_append_cons hc, trim]
      _ = trimEnd ([] ++ c :: trimEnd rest) := by
          rw [trimStart_append_of_blank hblanks, trimStart_cons_of_not_blank hc,
            List.nil_append]
      _ = trimEnd (trimStart cs) := by
          rw [trimEnd_append_cons hc, trimEnd_trimEnd, hstart]
          exact (trimEnd_append_cons hc [] rest).symm

end Text

end Spreadsheet
