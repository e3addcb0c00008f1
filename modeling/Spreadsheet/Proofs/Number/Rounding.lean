import Mathlib.Algebra.Order.Field.Basic
import Mathlib.Algebra.Order.Field.Power
import Mathlib.Data.Nat.Log
import Mathlib.Tactic.FieldSimp
import Mathlib.Tactic.Linarith
import Mathlib.Tactic.Ring
import Spreadsheet.Number.Shortest
import Spreadsheet.Proofs.Number.Counts

/-!
# Rounding to the nearest number

A number of 53 bits is what everything between the two halves next to it is rounded to. Rounding
shifts digits to their places and cuts off the rest, of which it keeps two bits; here both the
number and the rest are rational.

- `Rounding.Truncates`: what is cut off, and what the two bits say of it. Shifts keep it so.
- `Rounding.Nearest`, `Rounding.Truncates.roundedMantissa_eq`: the two bits are enough to
  find the nearest integer.
- `Binary.Rounds`: what lies between the halves next to a number, with the halves themselves
  if its last bit is zero.
- `Binary.Canonical`: the form in which numbers are kept.
- `Binary.Rounds.place_cases`: where the last digit of what is rounded stands.
- `Binary.Rounds.roundWithAccuracy_eq`: what lies between the halves is rounded to the number.
-/

namespace Spreadsheet

open Float.Model Float.Model.UnpackedFloat

/-! ## What is cut off -/

namespace Rounding

/-- The number is the mantissa, a half if the round bit is set, and a remainder below a half,
which is nothing unless the sticky bit is set. -/
def Truncates (em : ExtendedMantissa) (v : ℚ) : Prop :=
  ∃ r : ℚ, v = em.mantissa + (em.roundBit.toNat : ℚ) / 2 + r ∧ 0 ≤ r ∧ r < 1 / 2 ∧
    (em.stickyBit = true ↔ 0 < r)

/-- The natural number is the nearest one, and of two that are equally near it
is the even one. -/
structure Nearest (n : Nat) (v : ℚ) : Prop where
  lower : (n : ℚ) - 1 / 2 ≤ v
  upper : v ≤ n + 1 / 2
  even : v = n - 1 / 2 ∨ v = n + 1 / 2 → n % 2 = 0

section

variable {em : ExtendedMantissa} {v : ℚ}

theorem truncates_exact (m : Nat) : Truncates (.ofMantissaAndAccuracy m .exact) m := by
  refine ⟨0, ?_, le_rfl, by norm_num, ⟨nofun, fun h => absurd h (lt_irrefl _)⟩⟩
  show (m : ℚ) = m + ((0 : ℕ) : ℚ) / 2 + 0
  norm_num

/-- A fraction below one is kept as how it compares with nothing, one half and one. -/
theorem truncates_fraction (m : Nat) {num den : Nat} (h : num < den) :
    Truncates (.ofMantissaAndAccuracy m (accuracyOfFraction num den)) (m + num / den) := by
  have hden : (0 : ℚ) < den := by exact_mod_cast Nat.zero_lt_of_lt h
  unfold accuracyOfFraction
  split
  · next hzero =>
    rw [hzero, Nat.cast_zero, zero_div, add_zero]
    exact truncates_exact m
  next hne =>
  have hnum : (0 : ℚ) < num := by exact_mod_cast Nat.pos_of_ne_zero hne
  have hlt : (num : ℚ) < den := by exact_mod_cast h
  cases hhalf : compare (2 * num) den with
  | lt =>
    have hhalf : (2 * num : ℚ) < den := by exact_mod_cast Nat.compare_eq_lt.mp hhalf
    have hpos : (0 : ℚ) < num / den := div_pos hnum hden
    refine ⟨num / den, ?_, le_of_lt hpos, ?_, ⟨fun _ => hpos, fun _ => rfl⟩⟩
    · show (m : ℚ) + num / den = m + ((0 : ℕ) : ℚ) / 2 + num / den
      norm_num
    · rw [div_lt_div_iff₀ hden two_pos]
      linarith
  | eq =>
    have hhalf : (2 * num : ℚ) = den := by exact_mod_cast Nat.compare_eq_eq.mp hhalf
    refine ⟨0, ?_, le_rfl, by norm_num, ⟨nofun, fun h => absurd h (lt_irrefl _)⟩⟩
    show (m : ℚ) + num / den = m + ((1 : ℕ) : ℚ) / 2 + 0
    rw [← hhalf]
    field_simp
    norm_num
  | gt =>
    have hhalf : (den : ℚ) < 2 * num := by exact_mod_cast Nat.compare_eq_gt.mp hhalf
    have hpos : (0 : ℚ) < num / den - 1 / 2 := by
      rw [sub_pos, div_lt_div_iff₀ two_pos hden]
      linarith
    refine ⟨num / den - 1 / 2, ?_, le_of_lt hpos, ?_, ⟨fun _ => hpos, fun _ => rfl⟩⟩
    · show (m : ℚ) + num / den = m + ((1 : ℕ) : ℚ) / 2 + (num / den - 1 / 2)
      norm_num
    · have : (num : ℚ) / den < 1 := (div_lt_one₀ hden).mpr hlt
      linarith

/-- The whole part is kept as it is. -/
theorem mantissa_ofMantissaAndAccuracy (m : Nat) (acc : Accuracy) :
    (ExtendedMantissa.ofMantissaAndAccuracy m acc).mantissa = m := by
  unfold ExtendedMantissa.ofMantissaAndAccuracy
  split <;> rfl

/-- What is kept is the value rounded down. -/
theorem Truncates.bounds (h : Truncates em v) : em.mantissa ≤ v ∧ v < em.mantissa + 1 := by
  obtain ⟨r, hv, hnonneg, hlt, -⟩ := h
  have hround : (0 : ℚ) ≤ em.roundBit.toNat ∧ (em.roundBit.toNat : ℚ) ≤ 1 := by
    cases em.roundBit <;> norm_num
  exact ⟨by linarith [hround.1], by linarith [hround.2]⟩

/-- One binary digit less: what is cut off goes into the accuracy. -/
theorem Truncates.shiftRightOne (h : Truncates em v) : Truncates em.shiftRightOne (v / 2) := by
  obtain ⟨r, hv, hnonneg, hlt, hsticky⟩ := h
  have hmantissa : (em.mantissa : ℚ) = 2 * (em.mantissa / 2 : ℕ) + (em.mantissa % 2 : ℕ) := by
    exact_mod_cast (Nat.div_add_mod em.mantissa 2).symm
  have hbit : (em.mantissa % 2 != 0).toNat = em.mantissa % 2 := by
    rcases Nat.mod_two_eq_zero_or_one em.mantissa with hm | hm <;> rw [hm] <;> rfl
  have hround : (0 : ℚ) ≤ em.roundBit.toNat ∧ (em.roundBit.toNat : ℚ) ≤ 1 := by
    cases em.roundBit <;> norm_num
  refine ⟨em.roundBit.toNat / 4 + r / 2, ?_, by linarith [hround.1], by linarith [hround.2], ?_⟩
  · show v / 2 = (em.mantissa / 2 : ℕ) + ((em.mantissa % 2 != 0).toNat : ℚ) / 2 + _
    rw [hbit, hv, hmantissa]
    ring
  · show (em.roundBit || em.stickyBit) = true ↔ _
    cases em.roundBit with
    | true =>
      have hpos : (0 : ℚ) < (true.toNat : ℚ) / 4 + r / 2 := by
        norm_num
        linarith
      exact ⟨fun _ => hpos, fun _ => rfl⟩
    | false =>
      rw [Bool.false_or, hsticky, Bool.toNat_false, Nat.cast_zero, zero_div, zero_add]
      exact ⟨half_pos, fun h => by linarith⟩

/-- The same of any number of digits. -/
theorem Truncates.shiftRight (h : Truncates em v) (k : Nat) :
    Truncates (em >>> k) (v / 2 ^ k) := by
  induction k with
  | zero =>
    rw [pow_zero, div_one]
    exact h
  | succ k ih =>
    rw [pow_succ, ← div_div]
    exact ih.shiftRightOne

/-- From what is kept the nearest whole number is found, a tie going to the even one. -/
theorem Truncates.roundedMantissa_eq (h : Truncates em v) {n : Nat} (hn : Nearest n v) :
    em.roundedMantissa = n := by
  obtain ⟨r, hv, hnonneg, hlt, hsticky⟩ := h
  obtain ⟨hlower, hupper, heven⟩ := hn
  obtain ⟨m, roundBit, stickyBit⟩ := em
  have hrest (hclear : stickyBit = false) : r = 0 := by
    refine le_antisymm (not_lt.mp fun hpos => ?_) hnonneg
    cases hclear.symm.trans (hsticky.mpr hpos)
  dsimp only at hv hsticky
  cases roundBit with
  | false =>
    -- less than a half is cut off
    rw [Bool.toNat_false, Nat.cast_zero, zero_div, add_zero] at hv
    have hle : n ≤ m := Nat.lt_succ_iff.mp (by exact_mod_cast (by linarith : (n : ℚ) < m + 1))
    have hge : m ≤ n := by
      cases stickyBit with
      | false =>
        rw [hrest rfl] at hv
        exact Nat.lt_succ_iff.mp (by exact_mod_cast (by linarith : (m : ℚ) < n + 1))
      | true =>
        have hpos := hsticky.mp rfl
        exact Nat.lt_succ_iff.mp (by exact_mod_cast (by linarith : (m : ℚ) < n + 1))
    cases stickyBit <;> exact Nat.le_antisymm hge hle
  | true =>
    rw [Bool.toNat_true, Nat.cast_one] at hv
    have hle : n ≤ m + 1 :=
      Nat.lt_succ_iff.mp (by exact_mod_cast (by linarith : (n : ℚ) < (m + 1) + 1))
    cases stickyBit with
    | true =>
      -- more than a half is cut off
      have hpos := hsticky.mp rfl
      have hgt : m < n := by exact_mod_cast (by linarith : (m : ℚ) < n)
      exact Nat.le_antisymm hgt hle
    | false =>
      -- exactly a half is cut off
      rw [hrest rfl, add_zero] at hv
      have hge : m ≤ n := by exact_mod_cast (by linarith : (m : ℚ) ≤ n)
      show m + m % 2 = n
      rcases Nat.lt_or_ge m n with hlt | hge'
      · obtain rfl : n = m + 1 := by omega
        have := heven (.inl (by rw [hv]; push_cast; ring))
        omega
      · obtain rfl : n = m := by omega
        have := heven (.inr hv)
        omega

end

end Rounding

/-! ## Between the halves -/

namespace Binary

/-- The number halfway between this one and the next smaller one. -/
def lower (x : Binary) : ℚ := (4 * x.m - if x.narrowBelow then 1 else 2) * 2 ^ (x.q - 2)

/-- The number halfway between this one and the next larger one. -/
def upper (x : Binary) : ℚ := (4 * x.m + 2) * 2 ^ (x.q - 2)

/-- What lies between the two halves, and a half itself if `m` is even. -/
structure Rounds (x : Binary) (v : ℚ) : Prop where
  lower : x.lower ≤ v
  upper : v ≤ x.upper
  even : v = x.lower ∨ v = x.upper → x.m % 2 = 0

/-- A number in the form in which numbers are kept: with 53 bits, or with fewer if the last one
stands for the smallest number. -/
structure Canonical (x : Binary) : Prop where
  pos : 0 < x.m
  lt : x.m < 2 ^ 53
  min : -1074 ≤ x.q
  max : x.q ≤ 971
  full : 2 ^ 52 ≤ x.m ∨ x.q = -1074
  narrow : x.narrowBelow = true ↔ x.m = 2 ^ 52 ∧ -1074 < x.q

section

variable {x : Binary} {v : ℚ}

/-- Half a unit above the number lies the end of what is rounded to it. -/
theorem upper_eq (x : Binary) : x.upper = (x.m + 1 / 2) * 2 ^ x.q := by
  unfold upper
  rw [zpow_sub₀ two_ne_zero]
  norm_num
  ring

/-- Below a power of two the units are half as wide. -/
theorem lower_of_narrow (h : x.narrowBelow = true) :
    x.lower = (2 * x.m - 1 / 2) * 2 ^ (x.q - 1) := by
  unfold lower
  rw [if_pos h, zpow_sub₀ two_ne_zero, zpow_sub₀ two_ne_zero]
  norm_num
  ring

/-- Elsewhere they are as wide as above it. -/
theorem lower_of_not_narrow (h : x.narrowBelow = false) :
    x.lower = (x.m - 1 / 2) * 2 ^ x.q := by
  unfold lower
  rw [h, zpow_sub₀ two_ne_zero]
  norm_num
  ring

/-- Below a power of two the numbers are closer together. -/
theorem half_lt_lower (h : x.narrowBelow = true) : (x.m - 1 / 2) * 2 ^ x.q < x.lower := by
  have hunit : (0 : ℚ) < 2 ^ x.q := zpow_pos two_pos x.q
  have hlower : x.lower = (x.m - 1 / 2) * 2 ^ x.q + 2 ^ x.q / 4 := by
    rw [lower_of_narrow h, zpow_sub₀ two_ne_zero]
    norm_num
    ring
  rw [hlower]
  linarith

/-- At no place do they lie further apart. -/
theorem half_le_lower (x : Binary) : (x.m - 1 / 2) * 2 ^ x.q ≤ x.lower := by
  cases h : x.narrowBelow with
  | true => exact le_of_lt (half_lt_lower h)
  | false => exact le_of_eq (lower_of_not_narrow h).symm

/-! ## Where the last digit stands -/

/-- What is rounded to a canonical number is below the power that needs one digit more. -/
theorem Canonical.upper_lt (hx : x.Canonical) : x.upper < 2 ^ (x.q + 53) := by
  have hm : (x.m : ℚ) + 1 ≤ 2 ^ 53 := by exact_mod_cast hx.lt
  rw [upper_eq, zpow_add₀ two_ne_zero, mul_comm]
  refine mul_lt_mul_of_pos_left ?_ (zpow_pos two_pos x.q)
  calc (x.m : ℚ) + 1 / 2 < x.m + 1 := by linarith
    _ ≤ 2 ^ (53 : ℤ) := by exact_mod_cast hm

theorem le_lower (hfull : 2 ^ 52 ≤ x.m) : (2 : ℚ) ^ (x.q + 51) ≤ x.lower := by
  have hm : (2 : ℚ) ^ (52 : ℤ) ≤ x.m := by exact_mod_cast hfull
  cases hnarrow : x.narrowBelow with
  | true =>
    rw [lower_of_narrow hnarrow, show x.q + 51 = 52 + (x.q - 1) by ring, zpow_add₀ two_ne_zero]
    refine mul_le_mul_of_nonneg_right ?_ (le_of_lt (zpow_pos two_pos _))
    linarith
  | false =>
    rw [lower_of_not_narrow hnarrow, add_comm, zpow_add₀ two_ne_zero]
    refine mul_le_mul_of_nonneg_right ?_ (le_of_lt (zpow_pos two_pos _))
    have hdouble : (2 : ℚ) ^ (52 : ℤ) = 2 * 2 ^ (51 : ℤ) := by norm_num
    have hhalf : (1 : ℚ) / 2 ≤ 2 ^ (51 : ℤ) := by norm_num
    linarith

/-- Below a number that is not the first with its places, the next one has the same places. -/
theorem Canonical.lt_lower (hx : x.Canonical) (hmin : -1074 < x.q)
    (hnarrow : x.narrowBelow = false) : (2 : ℚ) ^ (x.q + 52) < x.lower := by
  have hfull : 2 ^ 52 ≤ x.m := hx.full.resolve_right (by omega)
  have hne : x.m ≠ 2 ^ 52 := fun heq => by
    rw [hx.narrow.mpr ⟨heq, hmin⟩] at hnarrow
    cases hnarrow
  have hm : (2 : ℚ) ^ (52 : ℤ) + 1 ≤ x.m := by exact_mod_cast Nat.lt_of_le_of_ne hfull hne.symm
  rw [lower_of_not_narrow hnarrow, add_comm, zpow_add₀ two_ne_zero]
  refine mul_lt_mul_of_pos_right ?_ (zpow_pos two_pos _)
  linarith

theorem exponent_lt {a b : Int} (h : (2 : ℚ) ^ a < 2 ^ b) : a < b :=
  (zpow_lt_zpow_iff_right₀ one_lt_two).mp h

/-- The place of the last digit of what is rounded: that of the number to which it is rounded,
or the next smaller one if it lies below a power of two that is the number. -/
theorem Rounds.place_cases (h : x.Rounds v) (hx : x.Canonical) {n : Nat} {e : Int}
    (hlow : (n : ℚ) * 2 ^ e ≤ v)
    (hhigh : v < (n + 1) * 2 ^ e) (hbits : 52 ≤ n.log2 ∨ e ≤ -1074) :
    max ((n.log2 : Int) + e - 52) (-1074) = x.q ∨
      max ((n.log2 : Int) + e - 52) (-1074) = x.q - 1 ∧ x.narrowBelow = true ∧
      v < 2 ^ (x.q + 52) := by
  have hupper : v < 2 ^ (x.q + 53) := lt_of_le_of_lt h.upper hx.upper_lt
  have hmin := hx.min
  rcases Nat.eq_zero_or_pos n with rfl | hn
  · -- less than the smallest number
    have he : e ≤ -1074 := hbits.resolve_left (by decide)
    rw [Nat.cast_zero, zero_add, one_mul] at hhigh
    have hq : x.q = -1074 := by
      by_contra hne
      have hlower := le_lower (hx.full.resolve_right hne)
      have hexp := exponent_lt (lt_of_le_of_lt (le_trans hlower h.lower) hhigh)
      omega
    left
    rw [hq, Nat.log2_zero]
    omega
  have hpow : (2 : ℚ) ^ ((n.log2 : Int) + e) ≤ v := by
    have hlog : (2 : ℚ) ^ (n.log2 : Int) ≤ n := by exact_mod_cast Nat.log2_self_le (by omega)
    rw [zpow_add₀ two_ne_zero]
    exact le_trans (mul_le_mul_of_nonneg_right hlog (le_of_lt (zpow_pos two_pos e))) hlow
  have hpow' : v < 2 ^ ((n.log2 : Int) + 1 + e) := by
    have hlog : (n : ℚ) + 1 ≤ 2 ^ ((n.log2 : Int) + 1) := by
      exact_mod_cast (Nat.lt_log2_self (n := n))
    rw [zpow_add₀ two_ne_zero]
    exact lt_of_lt_of_le hhigh (mul_le_mul_of_nonneg_right hlog (le_of_lt (zpow_pos two_pos e)))
  have hle := exponent_lt (lt_of_le_of_lt hpow hupper)
  by_cases hq : x.q = -1074
  · left
    omega
  have hfull := hx.full.resolve_right hq
  rcases le_or_gt (2 ^ (x.q + 52)) v with hge | hlt
  · have hexp := exponent_lt (lt_of_le_of_lt hge hpow')
    left
    omega
  · right
    have hexp := exponent_lt (lt_of_le_of_lt hpow hlt)
    have hexp' := exponent_lt
      (lt_of_le_of_lt (le_trans (le_lower hfull) h.lower) hpow')
    refine ⟨by omega, ?_, hlt⟩
    by_contra hnarrow
    have hlower := hx.lt_lower (by omega) (Bool.eq_false_iff.mpr hnarrow)
    exact absurd (lt_of_lt_of_le hlower h.lower) (not_lt.mpr (le_of_lt hlt))

/-! ## Rounding -/

/-- What is read as the number has it as the nearest multiple of its last digit. -/
theorem Rounds.nearest (h : x.Rounds v) : Rounding.Nearest x.m (v / 2 ^ x.q) := by
  have hunit : (0 : ℚ) < 2 ^ x.q := zpow_pos two_pos x.q
  have hupper : v ≤ (x.m + 1 / 2) * 2 ^ x.q := upper_eq x ▸ h.upper
  have hlower : (x.m - 1 / 2) * 2 ^ x.q ≤ v := le_trans (half_le_lower x) h.lower
  refine ⟨(le_div_iff₀ hunit).mpr hlower, (div_le_iff₀ hunit).mpr hupper, fun heq => h.even ?_⟩
  rw [div_eq_iff hunit.ne', div_eq_iff hunit.ne', ← upper_eq] at heq
  refine heq.imp_left fun hhalf => ?_
  cases hnarrow : x.narrowBelow with
  | false => exact hhalf.trans (lower_of_not_narrow hnarrow).symm
  | true => exact absurd h.lower (not_le.mpr (hhalf ▸ half_lt_lower hnarrow))

/-- Below a power of two, multiples of the next smaller digit count, and the nearest
one is the power itself. -/
theorem Rounds.nearest_of_narrow (h : x.Rounds v) (hx : x.Canonical)
    (hnarrow : x.narrowBelow = true)
    (hlt : v < 2 ^ (x.q + 52)) : Rounding.Nearest (2 ^ 53) (v / 2 ^ (x.q - 1)) := by
  have hunit : (0 : ℚ) < 2 ^ (x.q - 1) := zpow_pos two_pos _
  have hlower := h.lower
  rw [lower_of_narrow hnarrow, (hx.narrow.mp hnarrow).1] at hlower
  have hupper : v < 2 ^ 53 * 2 ^ (x.q - 1) := by
    have hsplit : (2 : ℚ) ^ (x.q + 52) = 2 ^ (53 : ℤ) * 2 ^ (x.q - 1) := by
      rw [← zpow_add₀ two_ne_zero]
      congr 1
      ring
    rw [hsplit] at hlt
    exact_mod_cast hlt
  refine ⟨(le_div_iff₀ hunit).mpr ?_, (div_le_iff₀ hunit).mpr ?_, fun _ => by decide⟩
  · push_cast at hlower ⊢
    refine le_trans (le_of_eq ?_) hlower
    ring
  · refine le_trans (le_of_lt hupper) (mul_le_mul_of_nonneg_right ?_ (le_of_lt hunit))
    push_cast
    linarith

/-- Digits are shifted until the last of them has its place. -/
theorem shiftToTargetExponent_eq (n : Nat) (e : Int) (acc : Accuracy) {t : Int}
    (ht : max ((n.log2 : Int) + e - 52) (-1074) = t) :
    shiftToTargetExponent Format.binary64 n e acc =
      (ExtendedMantissa.ofMantissaAndAccuracy n acc >>> (t - e).toNat, e + (t - e).toNat) := by
  have hplace : max ((n.log2 : Int) + 1 + e - 53) (-1074) = t := by omega
  rw [← hplace]
  rfl

/-- A number that is cut off where enough of its digits are kept is rounded to the
number as which it is read. -/
theorem Rounds.roundWithAccuracy_eq (h : x.Rounds v) (hx : x.Canonical) {n : Nat} {e : Int}
    {acc : Accuracy}
    (hcut : Rounding.Truncates (.ofMantissaAndAccuracy n acc) (v / 2 ^ e))
    (hbits : 52 ≤ n.log2 ∨ e ≤ -1074)
    (sign : Sign) :
    roundWithAccuracy Format.binary64 sign n e acc = .finite sign x.m x.q hx.pos := by
  have hbounds := hcut.bounds
  rw [Rounding.mantissa_ofMantissaAndAccuracy, le_div_iff₀ (zpow_pos two_pos e),
    div_lt_iff₀ (zpow_pos two_pos e)] at hbounds
  have hshifted {t : Int} (hle : e ≤ t) :
      Rounding.Truncates (ExtendedMantissa.ofMantissaAndAccuracy n acc >>> (t - e).toNat)
        (v / 2 ^ t) := by
    have hpow : (2 : ℚ) ^ e * 2 ^ (t - e).toNat = 2 ^ t := by
      rw [← zpow_natCast, ← zpow_add₀ two_ne_zero]
      congr 1
      omega
    rw [← hpow, ← div_div]
    exact hcut.shiftRight _
  have hmin := hx.min
  have hlog : x.m.log2 ≤ 52 := Nat.lt_succ_iff.mp ((Nat.log2_lt hx.pos.ne').mpr hx.lt)
  unfold roundWithAccuracy
  rcases h.place_cases hx hbounds.1 hbounds.2 hbits with hplace | ⟨hplace, hnarrow, hlt⟩
  · have hle : e ≤ x.q := by omega
    have hrounded := (hshifted hle).roundedMantissa_eq h.nearest
    have hfinal : max ((x.m.log2 : Int) + x.q - 52) (-1074) ≤ x.q := by omega
    rw [shiftToTargetExponent_eq n e acc hplace]
    dsimp only
    rw [hrounded, show e + ((x.q - e).toNat : Int) = x.q by omega,
      shiftToTargetExponent_eq _ _ _ rfl,
      show (max ((x.m.log2 : Int) + x.q - 52) (-1074) - x.q).toNat = 0 by omega]
    have hkept : (ExtendedMantissa.ofMantissaAndAccuracy x.m .exact >>> 0).mantissa = x.m := rfl
    dsimp only
    rw [dif_neg (by rw [hkept]; exact hx.pos.ne')]
    congr 1
    omega
  · -- rounding carries into a digit of its own
    have hle : e ≤ x.q - 1 := by omega
    have hrounded := (hshifted hle).roundedMantissa_eq (h.nearest_of_narrow hx hnarrow hlt)
    obtain ⟨hm, hq⟩ := hx.narrow.mp hnarrow
    rw [shiftToTargetExponent_eq n e acc hplace]
    dsimp only
    rw [hrounded, show e + ((x.q - 1 - e).toNat : Int) = x.q - 1 by omega,
      shiftToTargetExponent_eq _ _ _ (t := x.q) (by rw [Nat.log2_two_pow]; omega),
      show (x.q - (x.q - 1)).toNat = 1 by omega]
    have hcarry :
        (ExtendedMantissa.ofMantissaAndAccuracy (2 ^ 53) .exact >>> 1).mantissa = 2 ^ 52 := rfl
    dsimp only
    rw [dif_neg (by rw [hcarry]; decide)]
    congr 1
    · exact hm.symm
    · omega

end

end Binary

end Spreadsheet
