import Mathlib.Data.List.TakeWhile
import Spreadsheet.Proofs.Address
import Spreadsheet.Proofs.Number.Plain
import Spreadsheet.Proofs.Number.ShortestDecimals
import Spreadsheet.Proofs.Text.Case

/-!
# Numbers are read as they were shown

The text of a finite number is laid out from its shortest decimal. The reader finds the same
digits and the same place for the point, so the same decimal, and the nearest number to that
is the one that was shown.

- `Numeral.spanDecimal_integer`, `Numeral.spanDecimal_point`: digits with a point
  are read up to their end.
- `Numeral.decimal?_layPositional`: the reader finds the decimal that was laid out.
- `Numeral.ofChars?_decimal`: neither a sign in front nor a word hides digits.
- `readNumber?_render`: every finite number is read as it was shown.
- `readNumber?_render_grid`: so it is in the grid, except that the zero there has no sign.
-/

namespace Spreadsheet

namespace Numeral

/-! ## Digits with a point -/

section

variable {ds es : List Char} (hds : ∀ c ∈ ds, c.isDigit = true)

include hds

theorem takeWhile_digits : ds.takeWhile Char.isDigit = ds :=
  List.takeWhile_eq_self_iff.mpr hds

theorem dropWhile_digits : ds.dropWhile Char.isDigit = [] :=
  List.dropWhile_eq_nil_iff.mpr hds

/-- A run of digits is the whole part, and nothing is left. -/
theorem spanDecimal_integer : spanDecimal ds = (ds, [], []) := by
  unfold spanDecimal
  rw [dropWhile_digits hds, takeWhile_digits hds]

/-- A point divides the whole part from the fraction. -/
theorem spanDecimal_point (hes : ∀ c ∈ es, c.isDigit = true) :
    spanDecimal (ds ++ '.' :: es) = (ds, es, []) := by
  have hpoint : ('.' :: es).dropWhile Char.isDigit = '.' :: es :=
    List.dropWhile_cons_of_neg (by decide)
  have hpoint' : ('.' :: es).takeWhile Char.isDigit = [] :=
    List.takeWhile_cons_of_neg (by decide)
  unfold spanDecimal
  rw [List.dropWhile_append_of_pos hds, List.takeWhile_append_of_pos hds, hpoint, hpoint']
  show (ds ++ [], es.takeWhile Char.isDigit, es.dropWhile Char.isDigit) = _
  rw [takeWhile_digits hes, dropWhile_digits hes, List.append_nil]

/-- A decimal that ends with its digits has no exponent. -/
theorem decimal?_eq (hne : ds ≠ []) (negative : Bool) (hes : ∀ c ∈ es, c.isDigit = true) :
    decimal? negative (ds ++ '.' :: es) =
      some (.decimal negative (digitsValue (ds ++ es)) (-es.length)) := by
  unfold decimal?
  rw [spanDecimal_point hds hes]
  dsimp only
  rw [List.isEmpty_eq_false_iff.mpr hne, Bool.false_and, if_neg Bool.false_ne_true]
  show some (Numeral.decimal negative _ (0 - es.length)) = _
  rw [zero_sub]

/-- A whole number is read without an exponent. -/
theorem decimal?_integer (hne : ds ≠ []) (negative : Bool) :
    decimal? negative ds = some (.decimal negative (digitsValue ds) 0) := by
  unfold decimal?
  rw [spanDecimal_integer hds]
  dsimp only
  rw [List.isEmpty_eq_false_iff.mpr hne, Bool.false_and, if_neg Bool.false_ne_true,
    List.append_nil]
  rfl

end

/-- Zeros behind a numeral are powers of ten. -/
theorem digitsValue_append_zeros (ds : List Char) (k : Nat) :
    digitsValue (ds ++ List.replicate k '0') = digitsValue ds * 10 ^ k := by
  rw [digitsValue_eq, digitsValue_eq, Nat.ofDigitChars_append,
    Nat.ofDigitChars_replicate_zero, Nat.mul_comm]

/-- The reader finds the decimal that was laid out. -/
theorem decimal?_layPositional (negative : Bool) (d : Decimal) :
    ∃ read : Decimal, decimal? negative (NumberStyle.plain.layPositional d) =
      some (.decimal negative read.digits read.exponent) ∧ read.value = d.value := by
  have hdigits : ∀ c ∈ Nat.toDigits 10 d.digits, c.isDigit = true :=
    fun c hc => Nat.isDigit_of_mem_toDigits (by decide) (by decide) hc
  have hzeros (k : Nat) : ∀ c ∈ List.replicate k '0', c.isDigit = true := by
    intro c hc
    rw [List.eq_of_mem_replicate hc]
    rfl
  unfold NumberStyle.layPositional
  dsimp only
  split
  · next hexponent =>
    -- zeros stand for the exponent
    rw [show NumberStyle.plain.pointZero = false from rfl, if_neg Bool.false_ne_true,
      List.append_nil]
    refine ⟨⟨d.digits * 10 ^ d.exponent.toNat, 0⟩, ?_, ?_⟩
    · rw [decimal?_integer (fun c hc => (List.mem_append.mp hc).elim (hdigits c) (hzeros _ c))
        (List.append_ne_nil_of_left_ne_nil Nat.toDigits_ne_nil _), digitsValue_append_zeros,
        digitsValue_toDigits]
    · unfold Decimal.value
      dsimp only
      push_cast
      rw [mul_one, ← zpow_natCast, Int.toNat_of_nonneg hexponent]
  · next hexponent =>
    refine ⟨d, ?_, rfl⟩
    split
    · next hplaces =>
      -- the point stands among the digits
      have hne : (Nat.toDigits 10 d.digits).take
          ((Nat.toDigits 10 d.digits).length - (-d.exponent).toNat) ≠ [] := by
        rw [ne_eq, List.take_eq_nil_iff]
        exact not_or.mpr ⟨by omega, Nat.toDigits_ne_nil⟩
      rw [decimal?_eq (fun c hc => hdigits c (List.mem_of_mem_take hc)) hne _
        (fun c hc => hdigits c (List.mem_of_mem_drop hc)), List.take_append_drop,
        digitsValue_toDigits, List.length_drop]
      congr 2
      omega
    · next hplaces =>
      -- the point stands in front of all of them
      let zeros := List.replicate ((-d.exponent).toNat - (Nat.toDigits 10 d.digits).length) '0'
      have hfront : '0' :: '.' :: zeros ++ Nat.toDigits 10 d.digits =
          List.replicate 1 '0' ++ '.' :: (zeros ++ Nat.toDigits 10 d.digits) := rfl
      rw [hfront, decimal?_eq (hzeros 1) (List.cons_ne_nil _ _) _
        (fun c hc => (List.mem_append.mp hc).elim (hzeros _ c) (hdigits c)), digitsValue_zeros,
        digitsValue_zeros, digitsValue_toDigits, List.length_append, List.length_replicate]
      congr 2
      omega

/-! ## Signs and words -/

/-- What begins with a digit is no word. -/
theorem unsigned?_eq_decimal? (negative : Bool) {c : Char} (hc : c.isDigit = true)
    (cs : List Char) : unsigned? negative (c :: cs) = decimal? negative (c :: cs) := by
  have hlower : c.toLower.isDigit = true :=
    (Text.apply_toLower (f := Char.isDigit) (by decide) c).trans hc
  have hne {d : Char} (hd : d.isDigit = false) (ds : List Char) :
      (c :: cs).map Char.toLower ≠ d :: ds := by
    rw [List.map_cons]
    rintro heq
    rw [(List.cons.inj heq).1, hd] at hlower
    cases hlower
  unfold unsigned?
  dsimp only
  rw [if_neg (not_or.mpr ⟨hne rfl _, hne rfl _⟩), if_neg (hne rfl _)]

/-- Neither a sign in front nor a word hides digits. -/
theorem ofChars?_decimal {cs : List Char} (hcs : NumberStyle.IsDecimal cs) (negative : Bool) :
    ofChars? ((if negative then ['-'] else []) ++ cs) = decimal? negative cs := by
  obtain ⟨c, rest, rfl, hc⟩ : ∃ c rest, cs = c :: rest ∧ c.isDigit = true := by
    cases hcs with
    | integer hne hds =>
      obtain ⟨c, rest, rfl⟩ := List.exists_cons_of_ne_nil hne
      exact ⟨c, rest, rfl, hds c List.mem_cons_self⟩
    | point hne hds hes =>
      obtain ⟨c, rest, rfl⟩ := List.exists_cons_of_ne_nil hne
      exact ⟨c, _, rfl, hds c List.mem_cons_self⟩
  cases negative with
  | true => exact unsigned?_eq_decimal? true hc rest
  | false =>
    rw [if_neg Bool.false_ne_true, List.nil_append]
    unfold ofChars?
    split
    · next heq =>
      cases heq
      cases hc
    · next heq =>
      cases heq
      cases hc
    · exact unsigned?_eq_decimal? false hc rest

end Numeral

/-! ## Numbers -/

section

open Float.Model Float.Model.UnpackedFloat

/-- Negation changes the sign and nothing else. -/
theorem Binary.neg_toFloat {x : Binary} (hx : x.Canonical) (sign : Sign) :
    -(x.toFloat hx sign) = x.toFloat hx (-sign) := by
  show Float.ofModel (pack ((pack (.finite sign x.m x.q hx.pos)).unpack.neg)) = _
  rw [hx.unpack_pack]
  rfl

end

section

variable {x : Float}

/-- Two numbers are equal to zero. -/
theorem eq_zero_or_negZero (h : (x == 0) = true) : x = 0 ∨ x = -0 := by
  by_cases hx : x = -0
  · exact .inr hx
  · exact .inl (eq_of_toBits_eq (toBits_of_beq_zero h hx))

/-- Every finite number is read as it was shown. -/
theorem readNumber?_render (hfinite : x.isFinite = true) :
    readNumber? (NumberStyle.plain.render x) = some x := by
  cases hzero : x == 0 with
  | true => rcases eq_zero_or_negZero hzero with rfl | rfl <;> rfl
  | false =>
    obtain ⟨hx, hfloat⟩ := exists_toFloat_ofBits_eq hfinite hzero
    have htext : (NumberStyle.plain.render x).toList =
        (if decide (0x8000000000000000 ≤ x.toBits) then ['-'] else []) ++
          NumberStyle.plain.layPositional ((Binary.ofBits x.toBits).shortest .up) := by
      unfold NumberStyle.render
      rw [isNaN_of_isFinite hfinite, isInf_of_isFinite hfinite, if_neg Bool.false_ne_true]
      dsimp only
      rw [if_neg Bool.false_ne_true, String.toList_ofList,
        show NumberStyle.plain.signedZero = true from rfl, Bool.true_or, Bool.and_true]
      rfl
    obtain ⟨read, hread, hvalue⟩ :=
      Numeral.decimal?_layPositional (decide (0x8000000000000000 ≤ x.toBits))
        ((Binary.ofBits x.toBits).shortest .up)
    have hrounds : (Binary.ofBits x.toBits).Rounds read.value := by
      rw [hvalue]
      exact Binary.rounds_shortest .up hx.pos
    have hnearest := Binary.Rounds.nearest_eq hx hrounds
    unfold readNumber?
    rw [htext, Numeral.ofChars?_decimal (NumberStyle.isDecimal_layPositional rfl _), hread]
    show some (if _ then -(Numeral.nearest read.digits read.exponent)
      else Numeral.nearest read.digits read.exponent) = _
    rw [hnearest, Binary.neg_toFloat]
    by_cases hnegative : 0x8000000000000000 ≤ x.toBits
    · rw [if_pos hnegative] at hfloat
      rw [if_pos (decide_eq_true hnegative)]
      exact congrArg some hfloat
    · rw [if_neg hnegative] at hfloat
      rw [if_neg (by rw [decide_eq_true_iff]; exact hnegative)]
      exact congrArg some hfloat

theorem ite_beq_zero (hzero : x ≠ -0) : (if x == 0 then 0 else x) = x := by
  split
  · next h => exact (eq_of_toBits_eq (toBits_of_beq_zero h hzero)).symm
  · rfl

/-- In the grid the zero below zero has no sign, and any other number is read as
it was shown. -/
theorem readNumber?_render_grid (hfinite : x.isFinite = true) :
    readNumber? (NumberStyle.grid.render x) = some (if x == 0 then 0 else x) := by
  by_cases hzero : x = -0
  · rw [hzero]
    rfl
  · rw [NumberStyle.render_grid hfinite hzero, ite_beq_zero hzero, readNumber?_render hfinite]

/-- A number that is typed as it was shown is the number. -/
theorem Value.ofInput_render_grid (hfinite : x.isFinite = true) :
    Value.ofInput (NumberStyle.grid.render x) = .number (if x == 0 then 0 else x) := by
  by_cases hzero : x = -0
  · rw [hzero]
    rfl
  · rw [NumberStyle.render_grid hfinite hzero, ite_beq_zero hzero]
    exact (Value.ofInput_render hfinite (readNumber?_render hfinite)).2

end

/-! ## Numbers that are not below zero -/

section

open Float.Model Float.Model.UnpackedFloat

variable {x : Float}

/-- A finite number is equal to itself. -/
theorem beq_self_of_isFinite (h : x.isFinite = true) : (x == x) = true := by
  show (x.toModel.unpack.compare x.toModel.unpack == some .eq) = true
  unfold Float.isFinite Float.Model.isFinite at h
  cases hx : x.toModel.unpack with
  | notANumber =>
    rw [hx] at h
    cases h
  | infinity sign =>
    rw [hx] at h
    cases h
  | zero sign => rfl
  | finite sign m e hm =>
    have he : compare e e = .eq := Std.ReflOrd.compare_self
    have hmantissa : compare m m = .eq := Std.ReflOrd.compare_self
    cases sign with
    | negative =>
      show (some ((compare e e).then (compare m m)).swap == some .eq) = true
      rw [he, hmantissa]
      rfl
    | positive =>
      show (some ((compare e e).then (compare m m)) == some .eq) = true
      rw [he, hmantissa]
      rfl

/-- What has a minus sign is below zero. -/
theorem Binary.not_le_toFloat {x : Binary} (hx : x.Canonical) :
    ¬ (0 : Float) ≤ x.toFloat hx .negative := by
  intro h
  have hle : (0 : Float).toModel.unpack.le
      (pack (.finite .negative x.m x.q hx.pos)).unpack = true :=
    of_decide_eq_true h
  rw [hx.unpack_pack] at hle
  cases hle

/-- A number that is not below zero is shown without a sign. -/
theorem NumberStyle.isDecimal_render_grid (hfinite : x.isFinite = true) (hnonneg : 0 ≤ x) :
    IsDecimal (grid.render x).toList := by
  have hsign : (decide (0x8000000000000000 ≤ x.toBits) && (false || x != 0)) = false := by
    cases hzero : x == 0 with
    | true => rw [bne, hzero, Bool.not_true, Bool.or_false, Bool.and_false]
    | false =>
      obtain ⟨hx, hfloat⟩ := exists_toFloat_ofBits_eq hfinite hzero
      by_cases hnegative : 0x8000000000000000 ≤ x.toBits
      · rw [if_pos hnegative] at hfloat
        have hbelow := Binary.not_le_toFloat hx
        rw [hfloat] at hbelow
        exact absurd hnonneg hbelow
      · rw [decide_eq_false hnegative, Bool.false_and]
  unfold render
  rw [isNaN_of_isFinite hfinite, isInf_of_isFinite hfinite, if_neg Bool.false_ne_true]
  dsimp only
  rw [if_neg Bool.false_ne_true, String.toList_ofList,
    show grid.signedZero = false from rfl, hsign, if_neg Bool.false_ne_true, List.nil_append]
  exact isDecimal_layPositional rfl _

end

end Spreadsheet
