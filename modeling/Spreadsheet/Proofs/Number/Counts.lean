import Mathlib.Algebra.Order.Field.Basic
import Spreadsheet.Proofs.Number.Plain

/-!
# Counts as numbers

A count that is written as a number is rounded if it is large, but no count other than zero is
rounded to zero. So a sum may be divided by how many numbers were added.

- `Stays`, `stays_roundWithAccuracy`: rounding takes a number to zero only if it is
  smaller than the smallest one.
- `unpack_pack_ne_zero`: the bits of a number that stays are not those of zero.
- `unpack_mul_one_ne_zero`: a factor of one takes no number to zero.
- `ofNat_beq_zero`: a count is equal to zero only if there is nothing to count.
-/

namespace Spreadsheet

open Float.Model Float.Model.UnpackedFloat

/-! ## Rounding -/

theorem mantissa_shiftRight (em : ExtendedMantissa) (k : Nat) :
    (em >>> k).mantissa = em.mantissa / 2 ^ k := by
  induction k with
  | zero =>
    show em.mantissa = em.mantissa / 1
    omega
  | succ k ih =>
    show (em >>> k).mantissa / 2 = _
    rw [ih, Nat.div_div_eq_div_mul, Nat.pow_succ]

theorem mantissa_le_roundedMantissa (em : ExtendedMantissa) :
    em.mantissa ≤ em.roundedMantissa := by
  obtain ⟨m, roundBit, stickyBit⟩ := em
  unfold ExtendedMantissa.roundedMantissa
  cases roundBit <;> cases stickyBit
  · exact Nat.le_refl m
  · exact Nat.le_refl m
  · exact Nat.le_add_right m _
  · exact Nat.le_succ m

/-- The digits of a number are shifted until there are at most 53 of them and the last one
stands where numbers have one. If the first one stands there, something is left. -/
theorem shiftToTargetExponent_bounds {m : Nat} {e : Int} (hm : 0 < m)
    (he : -1074 ≤ m.log2 + e) :
    0 < (shiftToTargetExponent Format.binary64 m e .exact).1.mantissa ∧
      (shiftToTargetExponent Format.binary64 m e .exact).1.mantissa < 2 ^ 53 ∧
      -1074 ≤ (shiftToTargetExponent Format.binary64 m e .exact).2 := by
  obtain ⟨k, hk⟩ :
      ∃ k : Nat, k = (max ((m.log2 : Int) + 1 + e - 53) (-1074) - e).toNat := ⟨_, rfl⟩
  have hshifted : shiftToTargetExponent Format.binary64 m e .exact =
      ((⟨m, false, false⟩ : ExtendedMantissa) >>> k, e + k) := by
    rw [hk]
    rfl
  rw [hshifted, mantissa_shiftRight]
  refine ⟨Nat.div_pos ?_ (Nat.two_pow_pos k), ?_, ?_⟩
  · calc
      2 ^ k ≤ 2 ^ m.log2 := Nat.pow_le_pow_right (by decide) (by omega)
      _ ≤ m := Nat.log2_self_le (by omega)
  · rw [Nat.div_lt_iff_lt_mul (Nat.two_pow_pos k), ← Nat.pow_add]
    calc
      m < 2 ^ (m.log2 + 1) := Nat.lt_log2_self
      _ ≤ 2 ^ (53 + k) := Nat.pow_le_pow_right (by decide) (by omega)
  · dsimp only
    omega

/-- Neither zero nor too small for the bits of a number. -/
inductive Stays : UnpackedFloat → Prop
  | finite {s : Sign} {m : Nat} {e : Int} {hm : 0 < m} (hlt : m < 2 ^ 53) (he : -1074 ≤ e) :
    Stays (.finite s m e hm)
  | infinity (s : Sign) : Stays (.infinity s)
  | notANumber : Stays .notANumber

theorem stays_roundWithAccuracy (sign : Sign) {m : Nat} {e : Int} (hm : 0 < m)
    (he : -1074 ≤ m.log2 + e) : Stays (roundWithAccuracy Format.binary64 sign m e .exact) := by
  obtain ⟨hpos, -, hexponent⟩ := shiftToTargetExponent_bounds hm he
  unfold roundWithAccuracy
  dsimp only
  -- rounding up may have made one digit too many, which is shifted out again
  generalize (shiftToTargetExponent Format.binary64 m e .exact).2 = e₁ at *
  generalize hem : (shiftToTargetExponent Format.binary64 m e .exact).1 = em at *
  have hrounded : 0 < em.roundedMantissa :=
    Nat.lt_of_lt_of_le hpos (mantissa_le_roundedMantissa em)
  have hleft : -1074 ≤ (em.roundedMantissa.log2 : Int) + e₁ := by omega
  obtain ⟨hpos', hlt, hexponent'⟩ := shiftToTargetExponent_bounds hrounded hleft
  rw [dif_neg (by omega)]
  exact .finite hlt hexponent'

theorem stays_mul {s₁ s₂ : Sign} {m₁ m₂ : Nat} {e₁ e₂ : Int} (h₁ : 0 < m₁) (h₂ : 0 < m₂)
    (he : -1074 ≤ (m₁ * m₂).log2 + (e₁ + e₂)) :
    Stays (UnpackedFloat.mul .binary64 (.finite s₁ m₁ e₁ h₁) (.finite s₂ m₂ e₂ h₂)) :=
  stays_roundWithAccuracy _ (Nat.mul_pos h₁ h₂) he

/-! ## Bits -/

/-- The bits of a number that stays are not those of zero. -/
theorem unpack_pack_ne_zero {f : UnpackedFloat} (hf : Stays f) (sign : Sign) :
    (Float.Model.pack f).unpack ≠ .zero sign := by
  intro h
  have h : UnpackedFloat.unpack .binary64 (UnpackedFloat.pack .binary64 f) = .zero sign := h
  obtain ⟨hexponent, hmantissa⟩ := fields_of_unpack_eq_zero h
  have hmax : (-1#11 : BitVec 11) ≠ 0#11 := by decide
  cases hf with
  | infinity s => exact hmax (unpackExponent_packComponents.symm.trans hexponent)
  | notANumber => exact hmax (unpackExponent_packComponents.symm.trans hexponent)
  | @finite s m e hm hlt he =>
    unfold UnpackedFloat.pack at hexponent hmantissa
    dsimp only at hexponent hmantissa
    split at hexponent
    · exact hmax (unpackExponent_packComponents.symm.trans hexponent)
    next hover =>
    rw [if_neg hover] at hmantissa
    have hbias : (Format.exponentBias .binary64 : Int) = 1023 := rfl
    simp only [hbias] at hexponent hover
    split at hexponent
    · -- with all its digits, a number has an exponent
      rw [unpackExponent_packComponents] at hexponent
      have hmod := congrArg BitVec.toNat hexponent
      simp only [BitVec.toNat_ofNat, Nat.zero_mod] at hmod
      omega
    next hfew =>
      -- with fewer digits it is not zero, and none of them are lost
      rw [if_neg hfew, unpackMantissa_packComponents] at hmantissa
      have hmod := congrArg BitVec.toNat hmantissa
      have hlog : m.log2 < 53 := (Nat.log2_lt (by omega)).mpr hlt
      have hbits : m.log2 + 1 ≠ 53 := hfew
      have hsmall : m < 2 ^ 52 := (Nat.log2_lt (by omega)).mp (by omega)
      simp only [BitVec.toNat_ofNat, Nat.zero_mod] at hmod
      omega

/-- No number has a digit behind the place of the smallest number. -/
theorem exponent_of_unpack {x : Float} {s : Sign} {m : Nat} {e : Int} {hm : 0 < m}
    (h : x.toModel.unpack = .finite s m e hm) : -1074 ≤ e := by
  have hbias : (Format.exponentBias .binary64 : Int) = 1023 := rfl
  unfold Float.Model.unpack UnpackedFloat.unpack at h
  dsimp only at h
  rw [hbias] at h
  by_cases hmax : @unpackExponent .binary64 x.toModel.toBits.toBitVec = -1#11
  · rw [if_pos hmax] at h
    by_cases hmantissa : @unpackMantissa .binary64 x.toModel.toBits.toBitVec = 0#52
    · rw [if_pos hmantissa] at h
      cases h
    · rw [if_neg hmantissa] at h
      cases h
  rw [if_neg hmax] at h
  by_cases hleast : @unpackExponent .binary64 x.toModel.toBits.toBitVec = 0#11
  · rw [if_pos hleast] at h
    by_cases hmantissa : @unpackMantissa .binary64 x.toModel.toBits.toBitVec = 0#52
    · rw [dif_pos hmantissa] at h
      cases h
    · rw [dif_neg hmantissa] at h
      cases h
      rw [hleast]
      decide
  · rw [if_neg hleast] at h
    have hexponent := mt BitVec.toNat_inj.mp hleast
    simp only [BitVec.toNat_ofNat, Nat.zero_mod] at hexponent
    cases h
    omega

theorem le_log2_mul_two_pow {m : Nat} (hm : 0 < m) (k : Nat) :
    m.log2 + k ≤ (m * 2 ^ k).log2 := by
  have hne : m * 2 ^ k ≠ 0 := Nat.mul_ne_zero (by omega) (Nat.ne_of_gt (Nat.two_pow_pos k))
  rw [Nat.le_log2 hne, Nat.pow_add]
  exact Nat.mul_le_mul_right _ (Nat.log2_self_le (by omega))

/-- A factor of one takes no number to zero. -/
theorem unpack_mul_one_ne_zero {x one : Float}
    (hone : one.toModel.unpack = .finite .positive (2 ^ 52) (-52) (by decide))
    (hx : ∀ sign, x.toModel.unpack ≠ .zero sign) (sign : Sign) :
    (x * one).toModel.unpack ≠ .zero sign := by
  have hmul : (x * one).toModel.unpack =
    (Float.Model.pack
      (UnpackedFloat.mul .binary64 x.toModel.unpack one.toModel.unpack)).unpack := rfl
  rw [hmul, hone]
  refine unpack_pack_ne_zero ?_ sign
  cases h : x.toModel.unpack with
  | infinity s => exact .infinity _
  | notANumber => exact .notANumber
  | zero s => exact absurd h (hx s)
  | finite s m e hm =>
    have he := exponent_of_unpack h
    refine stays_mul hm (by decide) ?_
    have hlog : m.log2 + 52 ≤ (m * 2 ^ 52).log2 := le_log2_mul_two_pow hm 52
    omega

/-! ## Counts -/

theorem stays_ofNat {n : Nat} (hn : 0 < n) : Stays (UnpackedFloat.ofNat .binary64 n) := by
  have hpos : compare (n : Int) 0 = .gt := Int.compare_eq_gt.mpr (by omega)
  unfold UnpackedFloat.ofNat UnpackedFloat.ofInt UnpackedFloat.normalize UnpackedFloat.round
    decreaseExponent
  rw [hpos]
  dsimp only
  generalize (0 - Format.binary64.targetExponent (totalExponent (n : Int).toNat 0)).toNat = k
  rw [Int.toNat_natCast, Nat.shiftLeft_eq]
  refine stays_roundWithAccuracy _ (Nat.mul_pos hn (Nat.two_pow_pos k)) ?_
  have hlog := le_log2_mul_two_pow hn k
  omega

theorem stays_ofScientific {n : Nat} (hn : 0 < n) :
    Stays (UnpackedFloat.ofScientific .binary64 n 0) := by
  have hexponent : Format.exponentBits .binary64 = 11 := rfl
  unfold UnpackedFloat.ofScientific
  rw [dif_neg (by omega), if_neg (by decide), if_neg (by rw [hexponent]; omega),
    if_pos (by decide)]
  -- the digits are shifted to the left as far as a number has digits
  apply stays_mul
  have hbits : Format.mantissaBits .binary64 = 53 := rfl
  have hlog : n.log2 + 53 ≤ (n * 2 ^ 53).log2 := le_log2_mul_two_pow hn 53
  rw [hbits, Nat.shiftLeft_eq, Int.toNat_zero, Nat.pow_zero, Nat.mul_one]
  omega

/-- Only the count of nothing is zero as a number. -/
theorem unpack_ofNat_ne_zero {n : Nat} (hn : 0 < n) (sign : Sign) :
    (Float.ofNat n).toModel.unpack ≠ .zero sign := by
  show (Float.ofScientific n false 0).toModel.unpack ≠ .zero sign
  unfold Float.ofScientific
  by_cases hsmall : n < 2 ^ 53
  · -- a small count is written in its own digits, times one
    rw [dif_pos ⟨hsmall, by decide⟩]
    have hone : (Float.ofBits 0x3FF0000000000000).toModel.unpack =
      .finite .positive (2 ^ 52) (-52) (by decide) := rfl
    have hcount : n.toUInt64.toNat = n :=
      UInt64.toNat_ofNat_of_lt (Nat.lt_trans hsmall (by decide))
    have hcounted (sign : Sign) : n.toUInt64.toFloat.toModel.unpack ≠ .zero sign :=
      unpack_pack_ne_zero (stays_ofNat (hcount.symm ▸ hn)) sign
    exact unpack_mul_one_ne_zero hone hcounted sign
  · rw [dif_neg fun h => hsmall h.1]
    exact unpack_pack_ne_zero (stays_ofScientific hn) sign

/-- A count is equal to zero only if there is nothing to count. -/
theorem ofNat_beq_zero (n : Nat) : (Float.ofNat n == 0) = decide (n = 0) := by
  by_cases hn : n = 0
  · subst hn
    rfl
  · rw [decide_eq_false hn]
    by_contra h
    obtain ⟨sign, hzero⟩ := unpack_of_beq_zero (by simpa using h)
    exact unpack_ofNat_ne_zero (Nat.pos_of_ne_zero hn) sign hzero

end Spreadsheet
