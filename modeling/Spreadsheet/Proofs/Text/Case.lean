import Spreadsheet.Proofs.Text.Characters
import Spreadsheet.Text.Case

/-!
# Texts that differ only in case

Two texts may differ only in the case of their ASCII letters. The full mappings of case do not
tell such texts apart, although that of a capital sigma looks at the characters around it.

- `SameLetters`: the same characters, ASCII letters being taken in either case.
- `apply_toLower`: what is the same for each ASCII character in both cases looks
  at the case of none.
- `SameLetters.toUpper`, `SameLetters.toLower`: both full mappings come to the same.
-/

namespace Spreadsheet

namespace Text

/-- The same characters, except that ASCII letters may differ in case. -/
def SameLetters (cs ds : List Char) : Prop := cs.map Char.toLower = ds.map Char.toLower

instance (cs ds : List Char) : Decidable (SameLetters cs ds) :=
  inferInstanceAs (Decidable (cs.map Char.toLower = ds.map Char.toLower))

/-! ## Characters -/

/-- What is the same for each ASCII character in both cases looks at the case of
no character. -/
theorem apply_toLower {α : Type} {f : Char → α}
    (h : ∀ n : Fin 128, f (Char.ofNat n).toLower = f (Char.ofNat n)) (c : Char) :
    f c.toLower = f c := by
  by_cases hc : c.toNat < 128
  · have hascii := h ⟨c.toNat, hc⟩
    rwa [Char.ofNat_toNat] at hascii
  · have hother : c.toLower = c := by
      refine dif_neg fun ⟨_, hle⟩ => hc ?_
      have hle : c.toNat ≤ 90 := UInt32.le_iff_toNat_le.mp hle
      omega
    rw [hother]

/-- The upper case of a letter and of its small letter are the same. -/
theorem upper_toLower (c : Char) : upper c.toLower = upper c := apply_toLower (by decide) c

theorem lower_toLower (c : Char) : lower c.toLower = lower c := apply_toLower (by decide) c

theorem isAlpha_toLower (c : Char) : c.toLower.isAlpha = c.isAlpha :=
  apply_toLower (by decide) c

/-- Only a capital sigma is left as one. -/
theorem toLower_eq_sigma_iff {c : Char} : c.toLower = 'Σ' ↔ c = 'Σ' := by
  have hsigma : decide (c.toLower = 'Σ') = decide (c = 'Σ') :=
    apply_toLower (f := fun c => decide (c = 'Σ')) (by decide) c
  rwa [decide_eq_decide] at hsigma

/-- Outside the alphabet nothing is changed. -/
theorem toLower_of_not_isAlpha {c : Char} (h : ¬ c.isAlpha = true) : c.toLower = c := by
  refine dif_neg fun ⟨hmin, hmax⟩ => h ?_
  exact Bool.or_eq_true_iff.mpr (.inl (decide_eq_true ⟨hmin, hmax⟩))

/-- Ranges that contain all ASCII letters, or none of them, do not look at case. -/
theorem inRanges_toLower {ranges : List (Nat × Nat)} {b : Bool}
    (h : ∀ c : Char, c.isAlpha = true → inRanges ranges c = b) (c : Char) :
    inRanges ranges c.toLower = inRanges ranges c := by
  by_cases hc : c.isAlpha = true
  · rw [h c hc, h c.toLower ((isAlpha_toLower c).trans hc)]
  · rw [toLower_of_not_isAlpha hc]

/-- All letters are cased. -/
theorem isCased_of_isAlpha {c : Char} (h : c.isAlpha = true) :
    inRanges casedRanges c = true := by
  refine List.any_eq_true.mpr ?_
  rcases toNat_of_isAlpha h with hupper | hlower
  · exact ⟨(0x41, 0x5A), by decide, by simpa using hupper⟩
  · exact ⟨(0x61, 0x7A), by decide, by simpa using hlower⟩

/-- No letter is passed over when neighbours are looked for. -/
theorem isIgnorable_of_isAlpha {c : Char} (h : c.isAlpha = true) :
    inRanges caseIgnorableRanges c = false := by
  have hranges : caseIgnorableRanges.all
      (fun r => r.2 < 65 || (90 < r.1 && r.2 < 97) || 122 < r.1) = true := by decide +kernel
  refine List.any_eq_false.mpr fun r hr hc => ?_
  have hr := List.all_eq_true.mp hranges r hr
  have hc' := toNat_of_isAlpha h
  simp only [Bool.or_eq_true, Bool.and_eq_true, decide_eq_true_eq] at hr hc
  omega

/-! ## Texts -/

/-- Whether a cased character comes first does not depend on the case of any letter. -/
theorem meetsCased_map (cs : List Char) : meetsCased (cs.map Char.toLower) = meetsCased cs := by
  have hignorable :
      inRanges caseIgnorableRanges ∘ Char.toLower = inRanges caseIgnorableRanges :=
    funext (inRanges_toLower fun _ => isIgnorable_of_isAlpha)
  unfold meetsCased
  rw [List.dropWhile_map, hignorable]
  cases cs.dropWhile (inRanges caseIgnorableRanges) with
  | nil => rfl
  | cons c rest => exact inRanges_toLower (fun _ => isCased_of_isAlpha) c

/-- So a capital sigma becomes the same letter. -/
theorem lowerSigma_map (before after : List Char) :
    lowerSigma (before.map Char.toLower) (after.map Char.toLower) =
      lowerSigma before after := by
  unfold lowerSigma
  rw [meetsCased_map, meetsCased_map]

/-- And a text in small letters the same text. -/
theorem lowerAfter_map (before cs : List Char) :
    lowerAfter (before.map Char.toLower) (cs.map Char.toLower) = lowerAfter before cs := by
  induction cs generalizing before with
  | nil => rfl
  | cons c rest ih =>
    have hrest : lowerAfter (c.toLower :: before.map Char.toLower) (rest.map Char.toLower) =
        lowerAfter (c :: before) rest := ih (c :: before)
    rw [List.map_cons, lowerAfter, lowerAfter, lowerSigma_map, lower_toLower, hrest]
    simp only [toLower_eq_sigma_iff]

namespace SameLetters

variable {s t : String} (h : SameLetters s.toList t.toList)

include h

/-- Texts of the same letters agree in upper case. -/
theorem toUpper : Text.toUpper s = Text.toUpper t := by
  have hflat (cs : List Char) : cs.flatMap upper = (cs.map Char.toLower).flatMap upper := by
    rw [List.flatMap_map]
    exact congrArg (List.flatMap · cs) (funext fun c => (upper_toLower c).symm)
  unfold Text.toUpper
  rw [hflat, hflat t.toList, h]

/-- They agree in lower case, too. -/
theorem toLower : Text.toLower s = Text.toLower t := by
  unfold Text.toLower
  rw [← lowerAfter_map [] s.toList, ← lowerAfter_map [] t.toList, h]

end SameLetters

end Text

end Spreadsheet
