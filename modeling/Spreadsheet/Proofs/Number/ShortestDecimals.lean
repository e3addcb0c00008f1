import Spreadsheet.Proofs.Number.Nearest

/-!
# Shortest decimals are read as their number

The digits of a number are looked for on one grid of decimals after another, and a decimal is
taken if it lies between the halves next to the number. All of this is decided over the natural
numbers; here it is stated over the rationals.

- `Decimal.value`: the number that a decimal stands for.
- `Binary.compareScaled_eq`: the comparison over the natural numbers is that of the values.
- `Binary.readsBack_iff`: what reads back is what lies between the halves next to the number.
- `Binary.rounds_shortest`: so the shortest decimal does, on whichever grid it was found.
-/

namespace Spreadsheet

/-- The number that a decimal stands for. -/
def Decimal.value (d : Decimal) : ℚ := d.digits * 10 ^ d.exponent

namespace Binary

variable {x : Binary}

/-! ## Comparisons -/

/-- A power is a fraction whose numerator or denominator is one. -/
theorem zpow_mul_toNat_neg (b : ℚ) (hb : b ≠ 0) (i : Int) :
    b ^ i * b ^ (-i).toNat = b ^ i.toNat := by
  rw [← zpow_natCast, ← zpow_natCast, ← zpow_add₀ hb]
  congr 1
  omega

/-- Both sides are multiplied by their denominators. -/
theorem compareScaled_eq (a n : Nat) (i j : Int) :
    compareScaled a i n j = compare (a * 10 ^ i : ℚ) (n * 2 ^ j) := by
  have hscale : (0 : ℚ) < 10 ^ (-i).toNat * 2 ^ (-j).toNat := by positivity
  have hleft : ((a * Nat.pow 10 i.toNat * Nat.pow 2 (-j).toNat : ℕ) : ℚ) =
      a * 10 ^ i * (10 ^ (-i).toNat * 2 ^ (-j).toNat) := by
    show ((a * 10 ^ i.toNat * 2 ^ (-j).toNat : ℕ) : ℚ) = _
    push_cast
    rw [← zpow_mul_toNat_neg 10 (by norm_num) i]
    ring
  have hright : ((n * Nat.pow 2 j.toNat * Nat.pow 10 (-i).toNat : ℕ) : ℚ) =
      n * 2 ^ j * (10 ^ (-i).toNat * 2 ^ (-j).toNat) := by
    show ((n * 2 ^ j.toNat * 10 ^ (-i).toNat : ℕ) : ℚ) = _
    push_cast
    rw [← zpow_mul_toNat_neg 2 (by norm_num) j]
    ring
  unfold compareScaled
  rcases lt_trichotomy (a * 10 ^ i : ℚ) (n * 2 ^ j) with h | h | h
  · rw [compare_lt_iff_lt.mpr h, Nat.compare_eq_lt]
    have hlt := mul_lt_mul_of_pos_right h hscale
    rw [← hleft, ← hright] at hlt
    exact_mod_cast hlt
  · rw [compare_eq_iff_eq.mpr h, Nat.compare_eq_eq]
    rw [h, ← hright] at hleft
    exact_mod_cast hleft
  · rw [compare_gt_iff_gt.mpr h, Nat.compare_eq_gt]
    have hlt := mul_lt_mul_of_pos_right h hscale
    rw [← hleft, ← hright] at hlt
    exact_mod_cast hlt

/-- What reads back as a number is what lies between the halves next to it. -/
theorem readsBack_iff (hm : 0 < x.m) (d : Decimal) :
    x.readsBack d = true ↔ x.Rounds d.value := by
  have hbelow : (((if x.narrowBelow then 4 * x.m - 1 else 4 * x.m - 2) : ℕ) : ℚ) *
      2 ^ (x.q - 2) = x.lower := by
    unfold lower
    split
    · rw [Nat.cast_sub (by omega)]
      push_cast
      rfl
    · rw [Nat.cast_sub (by omega)]
      push_cast
      rfl
  have habove : ((4 * x.m + 2 : ℕ) : ℚ) * 2 ^ (x.q - 2) = x.upper := by
    unfold upper
    push_cast
    rfl
  unfold readsBack
  dsimp only
  rw [compareScaled_eq, compareScaled_eq, hbelow, habove]
  show ((decide (compare d.value x.lower = .gt) ||
    (decide (x.m % 2 = 0) && decide (compare d.value x.lower = .eq))) &&
    (decide (compare d.value x.upper = .lt) ||
      (decide (x.m % 2 = 0) && decide (compare d.value x.upper = .eq)))) =
      true ↔ _
  simp only [compare_gt_iff_gt, compare_lt_iff_lt, compare_eq_iff_eq, Bool.and_eq_true,
    Bool.or_eq_true, decide_eq_true_eq]
  constructor
  · rintro ⟨hlower, hupper⟩
    refine ⟨hlower.elim le_of_lt fun h => h.2.ge, hupper.elim le_of_lt fun h => h.2.le, ?_⟩
    rintro (heq | heq)
    · exact hlower.elim (fun h => absurd heq h.ne') And.left
    · exact hupper.elim (fun h => absurd heq h.ne) And.left
  · rintro ⟨hlower, hupper, heven⟩
    exact ⟨hlower.lt_or_eq.imp_right fun h => ⟨heven (.inl h.symm), h.symm⟩,
      hupper.lt_or_eq.imp_right fun h => ⟨heven (.inr h), h⟩⟩

/-! ## Grids -/

theorem nearerOn_eq (tie : Tie) (x : Binary) (g : Int) (n : Nat) :
    x.nearerOn tie g n = n ∨ x.nearerOn tie g n = n + 1 := by
  unfold nearerOn
  split
  · exact .inr rfl
  · exact .inl rfl
  · exact .inr rfl
  · split
    · exact .inl rfl
    · exact .inr rfl

/-- A decimal that is taken from a grid reads back. -/
theorem readsBack_onGrid {tie : Tie} {g : Int} {d : Decimal} (h : x.onGrid? tie g = some d) :
    x.readsBack d = true := by
  unfold onGrid? at h
  dsimp only at h
  split at h
  · next hfloor hnext =>
    cases h
    rcases nearerOn_eq tie x g (x.floorOn g) with hn | hn <;> rw [hn] <;> assumption
  · next hfloor _ =>
    cases h
    exact hfloor
  · next _ hnext =>
    cases h
    exact hnext
  · cases h

theorem value_exact (x : Binary) : x.exact.value = x.m * 2 ^ x.q := by
  unfold exact
  split
  · next hq =>
    show ((x.m * 2 ^ x.q.toNat : ℕ) : ℚ) * 10 ^ (0 : ℤ) = _
    push_cast
    rw [mul_one, ← zpow_natCast, Int.toNat_of_nonneg hq]
  · next hq =>
    show ((x.m * 5 ^ (-x.q).toNat : ℕ) : ℚ) * 10 ^ x.q = _
    have hfive : (5 : ℚ) ^ (-x.q).toNat * 5 ^ x.q = 1 := by
      rw [mul_comm, zpow_mul_toNat_neg 5 (by norm_num),
        Int.toNat_of_nonpos (by omega), pow_zero]
    push_cast
    rw [show (10 : ℚ) = 5 * 2 by norm_num, mul_zpow, mul_assoc, ← mul_assoc (5 ^ _),
      hfive, one_mul]

end Binary

/-- Zeros at the end are stripped without a change of the value. -/
theorem Decimal.value_stripZeros (d : Decimal) : d.stripZeros.value = d.value := by
  induction d using Decimal.stripZeros.induct with
  | case1 d h ih =>
    have hdigits : (d.digits : ℚ) = 10 * (d.digits / 10 : ℕ) := by
      exact_mod_cast (show d.digits = 10 * (d.digits / 10) by omega)
    rw [stripZeros, if_pos h, ih]
    unfold value
    rw [hdigits, zpow_add_one₀ (by norm_num)]
    ring
  | case2 d h => rw [stripZeros, if_neg h]

/-- The shortest decimal is read as its number. -/
theorem Binary.rounds_shortest (tie : Tie) {x : Binary} (hm : 0 < x.m) :
    x.Rounds (x.shortest tie).value := by
  unfold shortest
  dsimp only
  rw [if_neg hm.ne', Decimal.value_stripZeros]
  cases hfound : (List.range 17).findSome? fun n => x.onGrid? tie (x.scale - (n + 1 : Nat)) with
  | none =>
    rw [Option.getD_none, value_exact]
    exact rounds_self x
  | some d =>
    obtain ⟨n, -, hgrid⟩ := List.exists_of_findSome?_eq_some hfound
    exact (readsBack_iff hm d).mp (readsBack_onGrid hgrid)

end Spreadsheet
