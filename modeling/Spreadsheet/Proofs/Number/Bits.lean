import Mathlib.Tactic.Linarith
import Spreadsheet.Proofs.Number.Rounding

/-!
# Numbers and their bits

A finite number is a sign, an exponent and a mantissa, and each is kept in some of its bits. So
every finite number other than zero comes back from what its bits say.

- `packComponents_unpack`: bits are those of their three parts.
- `Binary.Canonical.pack_eq`, `Binary.Canonical.unpack_pack`: the bits of a number, and
  the number that they say.
- `Binary.toFloat`: a number with a sign.
- `Binary.canonical_ofBits`, `Binary.toFloat_ofBits`: the number that bits say,
  and its bits again.
- `exists_toFloat_ofBits_eq`: a finite number other than zero is what its bits say.
-/

namespace Spreadsheet

open Float.Model Float.Model.UnpackedFloat

/-! ## The three parts -/

section

variable (b : BitVec Format.binary64.numBits)

theorem toNat_unpackExponent : (unpackExponent b).toNat = b.toNat / 2 ^ 52 % 2 ^ 11 := by
  simp [unpackExponent, Nat.shiftRight_eq_div_pow]

theorem toNat_unpackMantissa : (unpackMantissa b).toNat = b.toNat % 2 ^ 52 := by
  simp [unpackMantissa]

theorem toNat_unpackSign : (unpackSign b).toNat = b.toNat / 2 ^ 63 := by
  have hlt : b.toNat < 2 ^ 64 := b.isLt
  show (b.extractLsb' 63 1).toNat = _
  rw [BitVec.extractLsb'_toNat, Nat.shiftRight_eq_div_pow]
  omega

theorem toBitVec_ofBitVec (s : BitVec 1) : (Sign.ofBitVec s).toBitVec = s := by
  revert s
  decide

/-- The bits of a number are those of its parts, side by side. -/
theorem toNat_packComponents (sign : Sign) (e : BitVec 11) (m : BitVec 52) :
    (packComponents .binary64 sign e m).toNat =
      sign.toBitVec.toNat * 2 ^ 63 + e.toNat * 2 ^ 52 + m.toNat := by
  unfold packComponents
  rw [BitVec.toNat_append, BitVec.toNat_append, ← Nat.shiftLeft_add_eq_or_of_lt (BitVec.isLt _),
    ← Nat.shiftLeft_add_eq_or_of_lt (BitVec.isLt _), Nat.shiftLeft_eq, Nat.shiftLeft_eq]
  omega

/-- Bits are those of their three parts. -/
theorem packComponents_unpack :
    packComponents .binary64 (Sign.ofBitVec (unpackSign b)) (unpackExponent b)
      (unpackMantissa b) = b := by
  have hlt : b.toNat < 2 ^ 64 := b.isLt
  apply BitVec.eq_of_toNat_eq
  rw [toNat_packComponents, toBitVec_ofBitVec, toNat_unpackSign, toNat_unpackExponent,
    toNat_unpackMantissa]
  omega

/-- The sign is read back from the bits. -/
theorem unpackSign_packComponents (sign : Sign) (e : BitVec 11) (m : BitVec 52) :
    Sign.ofBitVec (unpackSign (packComponents .binary64 sign e m)) = sign := by
  have hsign : unpackSign (packComponents .binary64 sign e m) = sign.toBitVec := by
    apply BitVec.eq_of_toNat_eq
    have he := e.isLt
    have hm := m.isLt
    rw [toNat_unpackSign, toNat_packComponents]
    omega
  rw [hsign]
  cases sign <;> rfl

end

/-! ## The bits of a number -/

namespace Binary

variable {x : Binary}

/-- The exponent bits of a number. -/
def exponentBits (x : Binary) : Nat := if 2 ^ 52 ≤ x.m then (x.q + 1075).toNat else 0

/-- A canonical number is packed with its own exponent and its own digits. -/
theorem Canonical.pack_eq (hx : x.Canonical) (sign : Sign) :
    UnpackedFloat.pack .binary64 (.finite sign x.m x.q hx.pos) =
      packComponents .binary64 sign (.ofNat 11 x.exponentBits) (.ofNat 52 x.m) := by
  have hmax := hx.max
  have hlt := hx.lt
  have hbias : (x.q + (Format.exponentBias .binary64 : Int) + (52 : Nat)).toNat =
      (x.q + 1075).toNat := by
    show (x.q + 1023 + 52).toNat = _
    omega
  unfold UnpackedFloat.pack exponentBits
  dsimp only
  rw [hbias, if_neg (by omega)]
  by_cases hfull : 2 ^ 52 ≤ x.m
  · have hlog : x.m.log2 + 1 = Format.mantissaBits .binary64 := by
      have := (Nat.le_log2 hx.pos.ne').mpr hfull
      have := (Nat.log2_lt hx.pos.ne').mpr hlt
      show _ = 53
      omega
    rw [if_pos hlog, if_pos hfull]
  · have hlog : x.m.log2 + 1 ≠ Format.mantissaBits .binary64 := by
      have := (Nat.log2_lt hx.pos.ne').mpr (Nat.not_le.mp hfull)
      show _ ≠ 53
      omega
    rw [if_neg hlog, if_neg hfull]

/-- Finite numbers are equal if all parts are. -/
theorem finite_congr {s s' : Sign} {m m' : Nat} {e e' : Int} {hm : 0 < m}
    {hm' : 0 < m'} (hs : s = s')
    (hmantissa : m = m') (he : e = e') :
    UnpackedFloat.finite s m e hm = .finite s' m' e' hm' := by
  subst hs hmantissa he
  rfl

/-- The exponent bits of a number are not those of what is not finite. -/
theorem Canonical.exponentBits_lt (hx : x.Canonical) : x.exponentBits < 2047 := by
  have hmax := hx.max
  unfold exponentBits
  split <;> omega

/-- The exponent of a canonical number fits into its bits. -/
theorem Canonical.toNat_exponentBits (hx : x.Canonical) :
    (BitVec.ofNat 11 x.exponentBits).toNat = x.exponentBits := by
  have hlt := hx.exponentBits_lt
  rw [BitVec.toNat_ofNat, Nat.mod_eq_of_lt (by omega)]

/-- A number is kept in its bits. -/
theorem Canonical.unpack_pack (hx : x.Canonical) (sign : Sign) :
    (Float.Model.pack (.finite sign x.m x.q hx.pos)).unpack = .finite sign x.m x.q hx.pos := by
  have hlt := hx.lt
  have hmin := hx.min
  have hpos := hx.pos
  have hexponent := hx.toNat_exponentBits
  have hnotMax : BitVec.ofNat 11 x.exponentBits ≠ -1#11 := by
    intro h
    have h := congrArg BitVec.toNat h
    rw [hexponent] at h
    exact Nat.ne_of_lt hx.exponentBits_lt h
  show UnpackedFloat.unpack .binary64 (UnpackedFloat.pack .binary64 _) = _
  rw [hx.pack_eq]
  generalize hbits : packComponents .binary64 sign (.ofNat 11 x.exponentBits)
    (.ofNat 52 x.m) = bits
  have hpartE : unpackExponent bits = .ofNat 11 x.exponentBits :=
    hbits ▸ unpackExponent_packComponents
  have hpartM : unpackMantissa bits = .ofNat 52 x.m := hbits ▸ unpackMantissa_packComponents
  have hpartS : Sign.ofBitVec (unpackSign bits) = sign :=
    hbits ▸ unpackSign_packComponents _ _ _
  unfold UnpackedFloat.unpack
  dsimp only
  rw [if_neg (hpartE ▸ hnotMax)]
  have hbias : ((Format.exponentBias .binary64 : Int) + (52 : Nat)) = 1075 := rfl
  by_cases hfull : 2 ^ 52 ≤ x.m
  · have hnotZero : BitVec.ofNat 11 x.exponentBits ≠ 0#11 := by
      intro h
      have h := congrArg BitVec.toNat h
      rw [hexponent, exponentBits, if_pos hfull] at h
      have h : (x.q + 1075).toNat = 0 := h
      omega
    rw [if_neg (hpartE ▸ hnotZero)]
    refine finite_congr hpartS ?_ ?_
    · rw [hpartM, BitVec.toNat_append, ← Nat.shiftLeft_add_eq_or_of_lt (BitVec.isLt _),
        BitVec.toNat_ofNat, Nat.shiftLeft_eq]
      show 1 * 2 ^ 52 + x.m % 2 ^ 52 = x.m
      omega
    · rw [hpartE, hexponent, exponentBits, if_pos hfull, hbias]
      omega
  · have hzero : BitVec.ofNat 11 x.exponentBits = 0#11 := by rw [exponentBits, if_neg hfull]
    have hmantissa : (BitVec.ofNat 52 x.m).toNat = x.m := by
      rw [BitVec.toNat_ofNat, Nat.mod_eq_of_lt (Nat.not_le.mp hfull)]
    have hne : BitVec.ofNat 52 x.m ≠ 0#52 := by
      intro h
      have h := congrArg BitVec.toNat h
      rw [hmantissa] at h
      exact hpos.ne' h
    rw [if_pos (hpartE.trans hzero), dif_neg (hpartM ▸ hne)]
    refine finite_congr hpartS (hpartM ▸ hmantissa) ?_
    rw [hbias, hpartE, hzero]
    show (0 : Int) - 1075 + 1 = x.q
    have := hx.full.resolve_left hfull
    omega

/-- The number with the sign. -/
def toFloat (x : Binary) (hx : x.Canonical) (sign : Sign) : Float :=
  .ofModel (.pack (.finite sign x.m x.q hx.pos))

/-! ## The number that bits say -/

/-- A number is made of its bits: those without an exponent are counted in the smallest unit. -/
theorem ofBits_eq (bits : UInt64) : ofBits bits =
    if bits.toNat / 2 ^ 52 % 2 ^ 11 = 0 then ⟨bits.toNat % 2 ^ 52, -1074, false⟩
    else ⟨2 ^ 52 + bits.toNat % 2 ^ 52, (bits.toNat / 2 ^ 52 % 2 ^ 11 : Nat) - 1075,
      bits.toNat % 2 ^ 52 = 0 && 1 < bits.toNat / 2 ^ 52 % 2 ^ 11⟩ := by
  have hexponent : ((bits >>> 52) &&& 0x7FF).toNat = bits.toNat / 2 ^ 52 % 2 ^ 11 := by
    rw [UInt64.toNat_and, UInt64.toNat_shiftRight, Nat.shiftRight_eq_div_pow]
    exact Nat.and_two_pow_sub_one_eq_mod _ 11
  have hmantissa : (bits &&& 0xFFFFFFFFFFFFF).toNat = bits.toNat % 2 ^ 52 := by
    rw [UInt64.toNat_and]
    exact Nat.and_two_pow_sub_one_eq_mod _ 52
  unfold ofBits
  dsimp only
  rw [hexponent, hmantissa]
  rfl

section

variable (bits : UInt64)

/-- The exponent is read back from the number. -/
theorem exponentBits_ofBits : (ofBits bits).exponentBits = bits.toNat / 2 ^ 52 % 2 ^ 11 := by
  rw [ofBits_eq]
  unfold exponentBits
  split
  · next hzero => rw [if_neg (by dsimp only; omega), hzero]
  · rw [if_pos (by dsimp only; omega)]
    dsimp only
    omega

theorem m_ofBits_mod : (ofBits bits).m % 2 ^ 52 = bits.toNat % 2 ^ 52 := by
  rw [ofBits_eq]
  split <;> dsimp only <;> omega

/-- The bits of a finite number other than zero make a canonical one. -/
theorem canonical_ofBits (hmax : bits.toNat / 2 ^ 52 % 2 ^ 11 ≠ 2047)
    (hzero : bits.toNat / 2 ^ 52 % 2 ^ 11 = 0 → bits.toNat % 2 ^ 52 ≠ 0) :
    (ofBits bits).Canonical := by
  rw [ofBits_eq]
  split
  · next hexponent =>
    have := hzero hexponent
    refine ⟨by dsimp only; omega, by dsimp only; omega, Int.le_refl _,
      by dsimp only; omega, .inr rfl, ?_⟩
    exact ⟨nofun, fun h => absurd h.2 (Int.lt_irrefl _)⟩
  · refine ⟨by dsimp only; omega, by dsimp only; omega, by dsimp only; omega,
      by dsimp only; omega, .inl (by dsimp only; omega), ?_⟩
    simp only [Bool.and_eq_true, decide_eq_true_eq]
    omega

/-- A number has the bits from which it comes. -/
theorem toFloat_ofBits {x : Float} (hx : (ofBits x.toBits).Canonical) :
    (ofBits x.toBits).toFloat hx
      (Sign.ofBitVec (@unpackSign .binary64 x.toBits.toBitVec)) = x := by
  have hexponent : BitVec.ofNat 11 (ofBits x.toBits).exponentBits =
      @unpackExponent .binary64 x.toBits.toBitVec := by
    apply BitVec.eq_of_toNat_eq
    rw [exponentBits_ofBits, BitVec.toNat_ofNat, toNat_unpackExponent, Nat.mod_mod]
    rfl
  have hmantissa :
      BitVec.ofNat 52 (ofBits x.toBits).m = @unpackMantissa .binary64 x.toBits.toBitVec := by
    apply BitVec.eq_of_toNat_eq
    rw [BitVec.toNat_ofNat, m_ofBits_mod, toNat_unpackMantissa]
    rfl
  refine eq_of_toBits_eq (UInt64.toBitVec_inj.mp ?_)
  have hpack := hx.pack_eq (Sign.ofBitVec (@unpackSign .binary64 x.toBits.toBitVec))
  rw [hexponent, hmantissa, packComponents_unpack] at hpack
  exact hpack

end

end Binary

/-! ## Finite numbers -/

section

variable {x : Float}

/-- What is unpacked as zero is equal to zero. -/
theorem beq_zero_of_unpack {sign : Sign} (h : x.toModel.unpack = .zero sign) :
    (x == 0) = true := by
  show (x.toModel.unpack.compare (.zero .positive) == some .eq) = true
  rw [h]
  cases sign <;> rfl

/-- The greatest exponent is kept for infinities and for what is no number. -/
theorem exponent_of_isFinite (h : x.isFinite = true) :
    x.toBits.toNat / 2 ^ 52 % 2 ^ 11 ≠ 2047 := by
  intro hmax
  have hexponent : @unpackExponent .binary64 x.toModel.toBits.toBitVec = -1#11 :=
    BitVec.eq_of_toNat_eq ((toNat_unpackExponent _).trans hmax)
  unfold Float.isFinite Float.Model.isFinite Float.Model.unpack UnpackedFloat.unpack at h
  rw [if_pos hexponent] at h
  split at h <;> cases h

/-- Without an exponent, only zero has no digits. -/
theorem mantissa_of_beq_zero (h : (x == 0) = false)
    (hexponent : x.toBits.toNat / 2 ^ 52 % 2 ^ 11 = 0) : x.toBits.toNat % 2 ^ 52 ≠ 0 := by
  intro hmantissa
  have hexponent : @unpackExponent .binary64 x.toModel.toBits.toBitVec = 0#11 :=
    BitVec.eq_of_toNat_eq ((toNat_unpackExponent _).trans hexponent)
  have hmantissa : @unpackMantissa .binary64 x.toModel.toBits.toBitVec = 0#52 :=
    BitVec.eq_of_toNat_eq ((toNat_unpackMantissa _).trans hmantissa)
  have hunpack : x.toModel.unpack =
      .zero (Sign.ofBitVec (@unpackSign .binary64 x.toModel.toBits.toBitVec)) := by
    unfold Float.Model.unpack UnpackedFloat.unpack
    dsimp only
    rw [if_neg (by rw [hexponent]; decide), if_pos hexponent, dif_pos hmantissa]
  rw [beq_zero_of_unpack hunpack] at h
  cases h

/-- The sign of a number is its first bit. -/
theorem ofBitVec_unpackSign_eq (bits : UInt64) :
    Sign.ofBitVec (@unpackSign .binary64 bits.toBitVec) =
      if 0x8000000000000000 ≤ bits then .negative else .positive := by
  have hlt := bits.toNat_lt
  have hsign : (@unpackSign .binary64 bits.toBitVec).toNat = bits.toNat / 2 ^ 63 :=
    toNat_unpackSign _
  unfold Sign.ofBitVec
  by_cases hbit : 0x8000000000000000 ≤ bits
  · have hle : 2 ^ 63 ≤ bits.toNat := UInt64.le_iff_toNat_le.mp hbit
    rw [if_pos hbit, if_neg]
    intro h
    rw [h] at hsign
    have hsign : 0 = bits.toNat / 2 ^ 63 := hsign
    omega
  · have hle : bits.toNat < 2 ^ 63 := UInt64.lt_iff_toNat_lt.mp (UInt64.not_le.mp hbit)
    rw [if_neg hbit, if_pos]
    apply BitVec.eq_of_toNat_eq
    rw [hsign]
    show _ = 0
    omega

/-- A finite number other than zero is what its bits say. -/
theorem exists_toFloat_ofBits_eq (hfinite : x.isFinite = true) (hne : (x == 0) = false) :
    ∃ hx : (Binary.ofBits x.toBits).Canonical, (Binary.ofBits x.toBits).toFloat hx
      (if 0x8000000000000000 ≤ x.toBits then .negative else .positive) = x := by
  have hx := Binary.canonical_ofBits _ (exponent_of_isFinite hfinite) (mantissa_of_beq_zero hne)
  exact ⟨hx, ofBitVec_unpackSign_eq x.toBits ▸ Binary.toFloat_ofBits hx⟩

end

end Spreadsheet
