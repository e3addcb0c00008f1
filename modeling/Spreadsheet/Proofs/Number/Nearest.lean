import Spreadsheet.Proofs.Number.Bits

/-!
# Decimals are read as the nearest number

A decimal is read in one of two ways. Few digits and a small power of ten are numbers
themselves, and are multiplied or divided once; any other decimal is multiplied or
divided as integers and rounded once. In both ways what lies between the halves next to
a number is read as that number.

- `Binary.Rounds.mul_eq`, `Binary.Rounds.div_eq`: products and quotients are rounded once.
- `Binary.ofCount`, `Binary.unpack_ofNat`: a count of at most 53 bits is a number itself.
- `Binary.isPowerOfTen_exactlyRepresentable`: so are the powers of ten up to the twenty-second.
- `Binary.Rounds.ofScientific_eq`: both ways of reading a decimal.
- `Binary.Rounds.nearest_eq`: a decimal between the halves next to a number is
  read as the number.
-/

namespace Spreadsheet

open Float.Model Float.Model.UnpackedFloat

namespace Binary

variable {x : Binary} {v : ℚ}

/-! ## Operations -/

section

variable (hx : x.Canonical) {s₁ s₂ : Sign} {m₁ m₂ : Nat} {e₁ e₂ : Int}
  (h₁ : 0 < m₁) (h₂ : 0 < m₂)

/-- A product is rounded to the number as which it is read. -/
theorem Rounds.mul_eq (h : x.Rounds (m₁ * 2 ^ e₁ * (m₂ * 2 ^ e₂)))
    (hbits : 52 ≤ (m₁ * m₂).log2) :
    UnpackedFloat.mul .binary64 (.finite s₁ m₁ e₁ h₁) (.finite s₂ m₂ e₂ h₂) =
      .finite (s₁ * s₂) x.m x.q hx.pos := by
  refine h.roundWithAccuracy_eq hx ?_ (.inl hbits) (s₁ * s₂)
  have hproduct : (m₁ * 2 ^ e₁ * (m₂ * 2 ^ e₂) : ℚ) / 2 ^ (e₁ + e₂) = (m₁ * m₂ : ℕ) := by
    rw [div_eq_iff (zpow_ne_zero _ two_ne_zero), zpow_add₀ two_ne_zero]
    push_cast
    ring
  rw [hproduct]
  exact Rounding.truncates_exact _

/-- A quotient is rounded to the number as which it is read. -/
theorem Rounds.div_eq (h : x.Rounds (m₁ * 2 ^ e₁ / (m₂ * 2 ^ e₂))) :
    UnpackedFloat.div .binary64 (.finite s₁ m₁ e₁ h₁) (.finite s₂ m₂ e₂ h₂) =
      .finite (s₁ / s₂) x.m x.q hx.pos := by
  obtain ⟨t, ht⟩ : ∃ t : Int, t = min (e₁ - e₂)
      (max ((m₁.log2 + 1 + e₁) - (m₂.log2 + 1 + e₂) - 53 : Int) (-1074)) := ⟨_, rfl⟩
  obtain ⟨k, hk⟩ : ∃ k, k = (e₁ - e₂ - t).toNat := ⟨_, rfl⟩
  have hcore : divCore .binary64 m₁ e₁ m₂ e₂ =
      (m₁ * 2 ^ k / m₂, t, accuracyOfFraction (m₁ * 2 ^ k % m₂) m₂) := by
    rw [hk, ht, ← Nat.shiftLeft_eq]
    rfl
  have hden : (m₂ : ℚ) ≠ 0 := by exact_mod_cast h₂.ne'
  have hquotient : (m₁ * 2 ^ e₁ / (m₂ * 2 ^ e₂) : ℚ) / 2 ^ t =
      (m₁ * 2 ^ k / m₂ : ℕ) + (m₁ * 2 ^ k % m₂ : ℕ) / m₂ := by
    have hexponent : (2 : ℚ) ^ e₁ = 2 ^ k * 2 ^ e₂ * 2 ^ t := by
      rw [← zpow_natCast, ← zpow_add₀ two_ne_zero, ← zpow_add₀ two_ne_zero]
      congr 1
      omega
    have hdiv : (m₁ : ℚ) * 2 ^ k = m₂ * (m₁ * 2 ^ k / m₂ : ℕ) + (m₁ * 2 ^ k % m₂ : ℕ) := by
      exact_mod_cast (Nat.div_add_mod (m₁ * 2 ^ k) m₂).symm
    have hsum : (m₁ * 2 ^ k / m₂ : ℕ) + ((m₁ * 2 ^ k % m₂ : ℕ) : ℚ) / m₂ = m₁ * 2 ^ k / m₂ := by
      rw [hdiv]
      field_simp
    rw [hsum, hexponent]
    have h2 := zpow_ne_zero t (two_ne_zero (α := ℚ))
    have h3 := zpow_ne_zero e₂ (two_ne_zero (α := ℚ))
    field_simp
  have hbits : 52 ≤ (m₁ * 2 ^ k / m₂).log2 ∨ t ≤ -1074 := by
    rcases le_or_gt t (-1074) with hle | hgt
    · exact .inr hle
    have hshift : m₂.log2 + 1 + 52 ≤ m₁.log2 + k := by omega
    have hle : 2 ^ 52 * m₂ ≤ m₁ * 2 ^ k :=
      calc 2 ^ 52 * m₂
        _ ≤ 2 ^ 52 * 2 ^ (m₂.log2 + 1) := Nat.mul_le_mul_left _ (le_of_lt Nat.lt_log2_self)
        _ = 2 ^ (m₂.log2 + 1 + 52) := by rw [← Nat.pow_add, Nat.add_comm]
        _ ≤ 2 ^ (m₁.log2 + k) := Nat.pow_le_pow_right two_pos hshift
        _ = 2 ^ m₁.log2 * 2 ^ k := Nat.pow_add _ _ _
        _ ≤ m₁ * 2 ^ k := Nat.mul_le_mul_right _ (Nat.log2_self_le h₁.ne')
    have hquotient : 2 ^ 52 ≤ m₁ * 2 ^ k / m₂ := (Nat.le_div_iff_mul_le h₂).mpr hle
    exact .inl ((Nat.le_log2 (by omega)).mpr hquotient)
  show (match divCore .binary64 m₁ e₁ m₂ e₂ with
    | (m, e, acc) => roundWithAccuracy .binary64 (s₁ / s₂) m e acc) = _
  rw [hcore]
  refine h.roundWithAccuracy_eq hx ?_ hbits (s₁ / s₂)
  rw [hquotient]
  exact Rounding.truncates_fraction _ (Nat.mod_lt _ h₂)

end

/-! ## Counts and powers of ten -/

/-- Every number lies above the lower end of what is rounded to it. -/
theorem lower_lt (x : Binary) : x.lower < x.m * 2 ^ x.q := by
  have hunit : (0 : ℚ) < 2 ^ x.q := zpow_pos two_pos x.q
  cases hnarrow : x.narrowBelow with
  | false =>
    rw [lower_of_not_narrow hnarrow]
    exact mul_lt_mul_of_pos_right (by linarith) hunit
  | true =>
    rw [lower_of_narrow hnarrow, zpow_sub₀ two_ne_zero]
    norm_num
    linarith

/-- And below the upper end. -/
theorem lt_upper (x : Binary) : x.m * 2 ^ x.q < x.upper := by
  rw [upper_eq]
  exact mul_lt_mul_of_pos_right (by linarith) (zpow_pos two_pos x.q)

/-- The number itself is read as it. -/
theorem rounds_self (x : Binary) : x.Rounds (x.m * 2 ^ x.q) where
  lower := le_of_lt (lower_lt x)
  upper := le_of_lt (lt_upper x)
  even h := h.elim (fun h => absurd h (lower_lt x).ne') fun h => absurd h (lt_upper x).ne

/-- A count with at most 53 bits, written with 53. -/
def ofCount (n : Nat) : Binary :=
  ⟨n * 2 ^ (52 - n.log2), n.log2 - 52, n * 2 ^ (52 - n.log2) = 2 ^ 52⟩

section

variable {n : Nat} (hpos : 0 < n) (hlt : n < 2 ^ 53)

include hpos hlt

theorem log2_le : n.log2 ≤ 52 := Nat.lt_succ_iff.mp ((Nat.log2_lt hpos.ne').mpr hlt)

/-- A count is written with as many digits as a number has. -/
theorem log2_ofCount : (ofCount n).m.log2 = 52 := by
  have hlog := log2_le hpos hlt
  have hlower := Nat.log2_self_le hpos.ne'
  have hupper := Nat.lt_log2_self (n := n)
  have hsplit : 2 ^ 52 = 2 ^ n.log2 * 2 ^ (52 - n.log2) := by
    rw [← Nat.pow_add]
    congr 1
    omega
  refine (Nat.log2_eq_iff (Nat.mul_pos hpos (Nat.two_pow_pos _)).ne').mpr ⟨?_, ?_⟩
  · rw [hsplit]
    exact Nat.mul_le_mul_right _ hlower
  · calc n * 2 ^ (52 - n.log2)
      _ < 2 ^ (n.log2 + 1) * 2 ^ (52 - n.log2) :=
        Nat.mul_lt_mul_of_pos_right hupper (Nat.two_pow_pos _)
      _ = 2 ^ (52 + 1) := by
        rw [← Nat.pow_add]
        congr 1
        omega

/-- So it is canonical. -/
theorem canonical_ofCount : (ofCount n).Canonical := by
  have hlog := log2_le hpos hlt
  have hm := Nat.mul_pos hpos (Nat.two_pow_pos (52 - n.log2))
  obtain ⟨hlower, hupper⟩ := (Nat.log2_eq_iff hm.ne').mp (log2_ofCount hpos hlt)
  have hq : (ofCount n).q = n.log2 - 52 := rfl
  refine ⟨hm, hupper, by omega, by omega, .inl hlower, ?_⟩
  have hnarrow : (ofCount n).narrowBelow = decide ((ofCount n).m = 2 ^ 52) := rfl
  rw [hnarrow, decide_eq_true_iff]
  exact ⟨fun h => ⟨h, by omega⟩, And.left⟩

/-- And it is the count. -/
theorem value_ofCount : ((ofCount n).m * 2 ^ (ofCount n).q : ℚ) = n := by
  have hlog := log2_le hpos hlt
  have hq : (ofCount n).q = -((52 - n.log2 : ℕ) : ℤ) := by
    show (n.log2 : ℤ) - 52 = _
    omega
  rw [hq, zpow_neg, zpow_natCast]
  show ((n * 2 ^ (52 - n.log2) : ℕ) : ℚ) * _ = n
  push_cast
  have := pow_ne_zero (52 - n.log2) (two_ne_zero (α := ℚ))
  field_simp

/-- A count is written without rounding. -/
theorem unpack_ofNat : (Float.Model.ofNat n).unpack =
    .finite .positive (ofCount n).m (ofCount n).q (canonical_ofCount hpos hlt).pos := by
  have hx := canonical_ofCount hpos hlt
  have hlog := log2_le hpos hlt
  have hround : UnpackedFloat.ofNat .binary64 n =
      roundWithAccuracy .binary64 .positive (ofCount n).m (ofCount n).q .exact := by
    obtain ⟨k, hk⟩ : ∃ k, k = (0 - max ((n.log2 : Int) + 1 + 0 - 53) (-1074)).toNat := ⟨_, rfl⟩
    have hcompare : compare (n : Int) 0 = .gt := Int.compare_eq_gt.mpr (by omega)
    have hshifted : UnpackedFloat.ofNat .binary64 n =
        roundWithAccuracy .binary64 .positive (n <<< k) (0 - k) .exact := by
      unfold UnpackedFloat.ofNat UnpackedFloat.ofInt UnpackedFloat.normalize
      rw [hcompare, hk]
      rfl
    have hq : (ofCount n).q = 0 - k := by
      show (n.log2 : Int) - 52 = _
      omega
    have hm : (ofCount n).m = n <<< k := by
      rw [Nat.shiftLeft_eq, show k = 52 - n.log2 by omega]
      rfl
    rw [hshifted, hm, hq]
  rw [← hx.unpack_pack]
  show (Float.Model.pack (UnpackedFloat.ofNat .binary64 n)).unpack = _
  rw [hround, (rounds_self _).roundWithAccuracy_eq hx ?_ (.inl (log2_ofCount hpos hlt).ge)]
  rw [mul_div_cancel_right₀ _ (zpow_ne_zero _ two_ne_zero)]
  exact Rounding.truncates_exact _

end

/-- Is it the power of ten, with 53 bits? -/
def isPowerOfTen (e : Nat) : UnpackedFloat → Bool
  | .finite .positive m q _ => 2 ^ 52 ≤ m && m * 2 ^ q.toNat == 10 ^ e * 2 ^ (-q).toNat
  | _ => false

/-- A number that is a power of ten is one exactly. -/
theorem exists_of_isPowerOfTen {e : Nat} {f : UnpackedFloat} (h : isPowerOfTen e f = true) :
    ∃ (m : Nat) (q : Int) (hm : 0 < m), f = .finite .positive m q hm ∧ 2 ^ 52 ≤ m ∧
      (m * 2 ^ q : ℚ) = 10 ^ e := by
  match f, h with
  | .finite .positive m q hm, h =>
    obtain ⟨hfull, hvalue⟩ := Bool.and_eq_true_iff.mp h
    refine ⟨m, q, hm, rfl, of_decide_eq_true hfull, ?_⟩
    have hvalue : (m : ℚ) * 2 ^ q.toNat = 10 ^ e * 2 ^ (-q).toNat := by
      exact_mod_cast eq_of_beq hvalue
    have hsplit : (2 : ℚ) ^ q.toNat = 2 ^ q * 2 ^ (-q).toNat := by
      rw [← zpow_natCast, ← zpow_natCast, ← zpow_add₀ two_ne_zero]
      congr 1
      omega
    rw [hsplit, ← mul_assoc] at hvalue
    exact mul_right_cancel₀ (pow_ne_zero _ two_ne_zero) hvalue

/-- The powers of ten up to the twenty-second are written without rounding. -/
theorem isPowerOfTen_exactlyRepresentable : ∀ e : Fin 23,
    isPowerOfTen e (Float.exactlyRepresentablePowersOfTen[e]).toModel.unpack = true := by
  decide +kernel

/-- A small count can be turned into a number by way of a word. -/
theorem unpack_toFloat {n : Nat} (hlt : n < 2 ^ 53) :
    n.toUInt64.toFloat.toModel.unpack = (Float.Model.ofNat n).unpack := by
  have hn : n.toUInt64.toNat = n := UInt64.toNat_ofNat_of_lt (Nat.lt_trans hlt (by decide))
  show (Float.Model.ofNat n.toUInt64.toNat).unpack = _
  rw [hn]

/-! ## Decimals -/

section

variable (hx : x.Canonical) {digits : Nat} {exponent : Int}
  (h : x.Rounds (digits * 10 ^ exponent)) (hdigits : 0 < digits)

include h hdigits

section

variable (hfew : digits < 2 ^ 53) {power : Float} {e : Nat}
  (hpower : isPowerOfTen e power.toModel.unpack = true)

include hfew hpower

/-- Few digits are divided by a small power of ten. -/
theorem Rounds.div_power_eq (hexponent : exponent = -(e : Int)) :
    digits.toUInt64.toFloat / power = x.toFloat hx .positive := by
  obtain ⟨m, q, hm, hunpack, -, hten⟩ := exists_of_isPowerOfTen hpower
  have hvalue := value_ofCount hdigits hfew
  have h : x.Rounds ((ofCount digits).m * 2 ^ (ofCount digits).q / (m * 2 ^ q)) := by
    rw [hvalue, hten, div_eq_mul_inv, ← zpow_natCast, ← zpow_neg, ← hexponent]
    exact h
  show Float.ofModel (.pack (UnpackedFloat.div .binary64 _ _)) = _
  rw [unpack_toFloat hfew, unpack_ofNat hdigits hfew, hunpack, h.div_eq hx]
  rfl

/-- Few digits are multiplied by a small power of ten. -/
theorem Rounds.mul_power_eq (hexponent : exponent = e) :
    digits.toUInt64.toFloat * power = x.toFloat hx .positive := by
  obtain ⟨m, q, hm, hunpack, hfull, hten⟩ := exists_of_isPowerOfTen hpower
  have hvalue := value_ofCount hdigits hfew
  have hpos := (canonical_ofCount hdigits hfew).pos
  have h : x.Rounds ((ofCount digits).m * 2 ^ (ofCount digits).q * (m * 2 ^ q)) := by
    rw [hvalue, hten, ← zpow_natCast, ← hexponent]
    exact h
  have hbits : 52 ≤ ((ofCount digits).m * m).log2 := by
    refine (Nat.le_log2 (Nat.mul_pos hpos hm).ne').mpr ?_
    exact Nat.le_trans hfull (Nat.le_mul_of_pos_left m hpos)
  show Float.ofModel (.pack (UnpackedFloat.mul .binary64 _ _)) = _
  rw [unpack_toFloat hfew, unpack_ofNat hdigits hfew, hunpack, h.mul_eq hx hpos hm hbits]
  rfl

end

/-- Any digits and any power of ten are rounded once. -/
theorem Rounds.unpacked_ofScientific_eq (hhigh : exponent ≤ 2048)
    (hlow : -(2048 + digits.log2 : Int) ≤ exponent) :
    UnpackedFloat.ofScientific .binary64 digits exponent =
      .finite .positive x.m x.q hx.pos := by
  have hbits : ((2 : Int) ^ Format.exponentBits .binary64) = 2048 := rfl
  unfold UnpackedFloat.ofScientific
  rw [dif_neg hdigits.ne', hbits, if_neg (by omega), if_neg (by omega)]
  by_cases hnonneg : 0 ≤ exponent
  · rw [if_pos hnonneg]
    have hmantissa : digits <<< Format.mantissaBits .binary64 = digits * 2 ^ 53 :=
      Nat.shiftLeft_eq _ _
    have hsame : (digits * 10 ^ exponent : ℚ) =
        (digits <<< Format.mantissaBits .binary64 : ℕ) *
          2 ^ (-(Format.mantissaBits .binary64 : Int)) *
          ((10 ^ exponent.toNat : ℕ) * 2 ^ (0 : Int)) := by
      rw [hmantissa, zpow_zero, mul_one,
        show (-(Format.mantissaBits .binary64 : Int)) = -53 from rfl]
      have hten : (10 : ℚ) ^ exponent = 10 ^ exponent.toNat := by
        rw [← zpow_natCast, Int.toNat_of_nonneg hnonneg]
      rw [hten]
      push_cast
      norm_num
      ring
    rw [hsame] at h
    refine h.mul_eq hx _ _ ?_
    have hpos : 0 < 10 ^ exponent.toNat := Nat.pow_pos (by decide)
    rw [hmantissa, Nat.le_log2 (by positivity)]
    calc 2 ^ 52
      _ ≤ 1 * 2 ^ 53 * 1 := by decide
      _ ≤ digits * 2 ^ 53 * 10 ^ exponent.toNat :=
        Nat.mul_le_mul (Nat.mul_le_mul_right _ hdigits) hpos
  · rw [if_neg hnonneg]
    have hsame : (digits * 10 ^ exponent : ℚ) =
        digits * 2 ^ (0 : Int) / ((10 ^ (-exponent).toNat : ℕ) * 2 ^ (0 : Int)) := by
      have hten : (10 : ℚ) ^ exponent = (10 ^ (-exponent).toNat)⁻¹ := by
        rw [← zpow_natCast, ← zpow_neg]
        congr 1
        omega
      rw [hten, zpow_zero, mul_one, mul_one, div_eq_mul_inv]
      push_cast
      rfl
    rw [hsame] at h
    exact h.div_eq hx _ _

/-- A decimal in range is the number as which it is read. -/
theorem Rounds.ofScientific_eq (hhigh : exponent ≤ 2048)
    (hlow : -(2048 + digits.log2 : Int) ≤ exponent) :
    Float.ofScientific digits (exponent < 0) exponent.natAbs = x.toFloat hx .positive := by
  unfold Float.ofScientific
  split
  · next hfast =>
    have hpower := isPowerOfTen_exactlyRepresentable ⟨exponent.natAbs, by omega⟩
    dsimp only
    split
    · next hneg =>
      have hneg := of_decide_eq_true hneg
      exact h.div_power_eq hx hdigits hfast.1 hpower (by dsimp only; omega)
    · next hneg =>
      have hneg := of_decide_eq_false (Bool.eq_false_iff.mpr hneg)
      exact h.mul_power_eq hx hdigits hfast.1 hpower (by dsimp only; omega)
  · have hexponent : (if decide (exponent < 0) = true then Int.negOfNat exponent.natAbs
        else Int.ofNat exponent.natAbs) = exponent := by
      split
      · next hneg =>
        have := of_decide_eq_true hneg
        rw [Int.negOfNat_eq]
        show -(exponent.natAbs : Int) = exponent
        omega
      · next hneg =>
        have := of_decide_eq_false (Bool.eq_false_iff.mpr hneg)
        show (exponent.natAbs : Int) = exponent
        omega
    dsimp only
    rw [hexponent]
    show Float.ofModel (.pack (UnpackedFloat.ofScientific .binary64 digits exponent)) = _
    rw [h.unpacked_ofScientific_eq hx hdigits hhigh hlow]
    rfl

end

/-! ## Numerals -/

/-- Nothing that is rounded to a canonical number is as small as half of the least one. -/
theorem Canonical.smallest_le (hx : x.Canonical) : (2 : ℚ) ^ (-1075 : ℤ) ≤ x.lower := by
  have hunit : (2 : ℚ) ^ (-1074 : ℤ) ≤ 2 ^ x.q := zpow_le_zpow_right₀ one_le_two hx.min
  have hm : (1 : ℚ) ≤ x.m := by exact_mod_cast hx.pos
  have hhalf : (1 / 2 : ℚ) ≤ x.m - 1 / 2 := by linarith
  calc (2 : ℚ) ^ (-1075 : ℤ)
    _ = 1 / 2 * 2 ^ (-1074 : ℤ) := by
      rw [show (-1075 : ℤ) = -1 + -1074 by rfl, zpow_add₀ two_ne_zero, zpow_neg_one, one_div]
    _ ≤ (x.m - 1 / 2) * 2 ^ x.q := mul_le_mul hhalf hunit (by positivity) (by linarith)
    _ ≤ x.lower := half_le_lower x

/-- Nor as great as what is beyond the greatest. -/
theorem Canonical.upper_lt_largest (hx : x.Canonical) : x.upper < (2 : ℚ) ^ (1024 : ℤ) := by
  have hmax := hx.max
  exact lt_of_lt_of_le hx.upper_lt (zpow_le_zpow_right₀ one_le_two (by omega))

theorem two_zpow_le_ten_zpow : (2 : ℚ) ^ (1200 : ℤ) ≤ 10 ^ (400 : ℤ) := by
  rw [show (1200 : ℤ) = 3 * 400 by rfl, zpow_mul]
  exact zpow_le_zpow_left₀ (by decide) (by norm_num) (by norm_num)

/-- A decimal between the halves next to a number is read as the number. -/
theorem Rounds.nearest_eq (hx : x.Canonical) {digits : Nat} {exponent : Int}
    (h : x.Rounds (digits * 10 ^ exponent)) :
    Numeral.nearest digits exponent = x.toFloat hx .positive := by
  have hlower := le_trans hx.smallest_le h.lower
  have hupper := lt_of_le_of_lt h.upper hx.upper_lt_largest
  have hdigits : 0 < digits := by
    rcases Nat.eq_zero_or_pos digits with rfl | hpos
    · rw [Nat.cast_zero, zero_mul] at hlower
      exact absurd hlower (not_le.mpr (zpow_pos two_pos _))
    · exact hpos
  have hone : (1 : ℚ) ≤ digits := by exact_mod_cast hdigits
  have hhigh : exponent < 400 := by
    by_contra hge
    have hten : (10 : ℚ) ^ (400 : ℤ) ≤ 10 ^ exponent :=
      zpow_le_zpow_right₀ (by norm_num) (by omega)
    have hlarge : (2 : ℚ) ^ (1024 : ℤ) ≤ 2 ^ (1200 : ℤ) :=
      zpow_le_zpow_right₀ one_le_two (by decide)
    have hle : (10 : ℚ) ^ exponent ≤ digits * 10 ^ exponent :=
      le_mul_of_one_le_left (by positivity) hone
    exact absurd hupper
      (not_lt.mpr (hlarge.trans (two_zpow_le_ten_zpow.trans (hten.trans hle))))
  have hlow : -400 < exponent + digits.log2 + 1 := by
    by_contra hle
    have hlog : (digits : ℚ) ≤ 10 ^ (digits.log2 + 1 : ℤ) := by
      have : digits ≤ 10 ^ (digits.log2 + 1) :=
        Nat.le_trans (le_of_lt Nat.lt_log2_self) (Nat.pow_le_pow_left (by decide) _)
      exact_mod_cast this
    have hsmall : (10 : ℚ) ^ (-400 : ℤ) < 2 ^ (-1075 : ℤ) := by
      rw [zpow_neg, zpow_neg]
      refine inv_strictAnti₀ (zpow_pos two_pos _) (lt_of_lt_of_le ?_ two_zpow_le_ten_zpow)
      exact zpow_lt_zpow_right₀ one_lt_two (by decide)
    have hbound : (digits * 10 ^ exponent : ℚ) ≤ 10 ^ (-400 : ℤ) :=
      calc (digits * 10 ^ exponent : ℚ)
        _ ≤ 10 ^ (digits.log2 + 1 : ℤ) * 10 ^ exponent :=
          mul_le_mul_of_nonneg_right hlog (by positivity)
        _ = 10 ^ (digits.log2 + 1 + exponent : ℤ) := (zpow_add₀ (by norm_num) _ _).symm
        _ ≤ 10 ^ (-400 : ℤ) := zpow_le_zpow_right₀ (by norm_num) (by omega)
    linarith
  unfold Numeral.nearest
  rw [if_neg hdigits.ne', if_neg (by omega), if_neg (by omega)]
  exact h.ofScientific_eq hx hdigits (by omega) (by omega)

end Binary

end Spreadsheet
