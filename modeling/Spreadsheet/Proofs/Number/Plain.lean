import Spreadsheet.Proofs.Text.Characters
import Spreadsheet.Value

/-!
# Numbers as the grid shows them

The grid shows a finite number with digits and at most one point, with a minus in front if it is
negative, and never with an exponent. If that text reads back as the number, then it is worth
the number when it is typed into a cell.

- `toBits_of_beq_zero`: only two numbers are equal to zero, and one of them has the sign.
- `NumberStyle.plain`: the style of the grid, except that the zero below zero keeps its sign.
- `NumberStyle.IsDecimal`, `NumberStyle.isDecimal_layPositional`: digits with at most one point.
- `NumberStyle.toList_render`, `NumberStyle.render_grid`: the texts of finite numbers.
- `Value.ofInput_render`: what such a text is worth when it is typed.
-/

namespace Spreadsheet

/-! ## Zeros and finite numbers -/

section

open Float.Model Float.Model.UnpackedFloat

variable {x : Float}

theorem isNaN_of_isFinite (h : x.isFinite = true) : x.isNaN = false := by
  unfold Float.isFinite Float.Model.isFinite at h
  unfold Float.isNaN Float.Model.isNaN
  cases hx : x.toModel.unpack with
  | notANumber =>
    rw [hx] at h
    cases h
  | _ => rfl

theorem isInf_of_isFinite (h : x.isFinite = true) : x.isInf = false := by
  unfold Float.isFinite Float.Model.isFinite at h
  unfold Float.isInf Float.Model.isInf
  cases hx : x.toModel.unpack with
  | infinity sign =>
    rw [hx] at h
    cases h
  | _ => rfl

theorem unpack_of_beq_zero (h : (x == 0) = true) : ∃ sign, x.toModel.unpack = .zero sign := by
  have h : x.toModel.unpack.compare (0 : Float).toModel.unpack = some .eq := eq_of_beq h
  have hzero : (0 : Float).toModel.unpack = .zero .positive := rfl
  rw [hzero] at h
  cases hx : x.toModel.unpack with
  | zero sign => exact ⟨sign, rfl⟩
  | notANumber =>
    rw [hx] at h
    cases h
  | infinity sign =>
    rw [hx] at h
    cases sign <;> cases h
  | finite sign m e hm =>
    rw [hx] at h
    cases sign <;> cases h

/-- A zero has neither an exponent nor a mantissa. -/
theorem fields_of_unpack_eq_zero {bits : BitVec Format.binary64.numBits} {sign : Sign}
    (h : UnpackedFloat.unpack .binary64 bits = .zero sign) :
    unpackExponent bits = 0#11 ∧ unpackMantissa bits = 0#52 := by
  unfold UnpackedFloat.unpack at h
  dsimp only at h
  by_cases hmax : unpackExponent bits = -1#11
  · rw [if_pos hmax] at h
    by_cases hmantissa : unpackMantissa bits = 0#52
    · rw [if_pos hmantissa] at h
      cases h
    · rw [if_neg hmantissa] at h
      cases h
  · rw [if_neg hmax] at h
    by_cases hexponent : unpackExponent bits = 0#11
    · rw [if_pos hexponent] at h
      by_cases hmantissa : unpackMantissa bits = 0#52
      · exact ⟨hexponent, hmantissa⟩
      · rw [dif_neg hmantissa] at h
        cases h
    · rw [if_neg hexponent] at h
      cases h

/-- A zero has no bit set but that of the sign. -/
theorem toBits_of_unpack_eq_zero {sign : Sign} (h : x.toModel.unpack = .zero sign) :
    x.toBits = 0 ∨ x.toBits = 0x8000000000000000 := by
  obtain ⟨hexponent, hmantissa⟩ : @unpackExponent .binary64 x.toBits.toBitVec = 0#11 ∧
      @unpackMantissa .binary64 x.toBits.toBitVec = 0#52 := fields_of_unpack_eq_zero h
  have hexponent : x.toBits.toNat / 2 ^ 52 % 2 ^ 11 = 0 := by
    simpa [unpackExponent, Nat.shiftRight_eq_div_pow] using congrArg BitVec.toNat hexponent
  have hmantissa : x.toBits.toNat % 2 ^ 52 = 0 := by
    simpa [unpackMantissa] using congrArg BitVec.toNat hmantissa
  have hlt : x.toBits.toNat < 2 ^ 64 := UInt64.toNat_lt x.toBits
  have hbits : x.toBits.toNat = 0 ∨ x.toBits.toNat = 0x8000000000000000 := by omega
  exact hbits.imp (fun h => UInt64.toNat_inj.mp h) fun h => UInt64.toNat_inj.mp h

theorem eq_of_toBits_eq {y : Float} (h : x.toBits = y.toBits) : x = y := by
  obtain ⟨⟨_, _⟩⟩ := x
  obtain ⟨⟨_, _⟩⟩ := y
  cases h
  rfl

/-- Only two numbers are equal to zero, and one of them has the sign. -/
theorem toBits_of_beq_zero (h : (x == 0) = true) (hx : x ≠ -0) : x.toBits = 0 := by
  obtain ⟨_, hzero⟩ := unpack_of_beq_zero h
  rcases toBits_of_unpack_eq_zero hzero with h | h
  · exact h
  · have hneg : (-0 : Float).toBits = 0x8000000000000000 := rfl
    exact absurd (eq_of_toBits_eq (h.trans hneg.symm)) hx

end

namespace NumberStyle

/-- Numbers as in the grid, except that the zero below zero has a sign. -/
def plain : NumberStyle := { grid with signedZero := true }

/-! ## Digits with a point -/

/-- Digits with at most one point, which is not in front. -/
inductive IsDecimal : List Char → Prop
  | integer {ds : List Char} (hne : ds ≠ []) (hds : ∀ c ∈ ds, c.isDigit = true) : IsDecimal ds
  | point {ds es : List Char} (hne : ds ≠ []) (hds : ∀ c ∈ ds, c.isDigit = true)
      (hes : ∀ c ∈ es, c.isDigit = true) : IsDecimal (ds ++ '.' :: es)

theorem IsDecimal.ne_nil {cs : List Char} (h : IsDecimal cs) : cs ≠ [] := by
  cases h with
  | integer hne _ => exact hne
  | point => exact List.append_ne_nil_of_right_ne_nil _ (List.cons_ne_nil _ _)

theorem IsDecimal.isDigit_or_point {cs : List Char} (h : IsDecimal cs) {c : Char}
    (hc : c ∈ cs) : c.isDigit = true ∨ c = '.' := by
  cases h with
  | integer _ hds => exact .inl (hds c hc)
  | point _ hds hes =>
    rcases List.mem_append.mp hc with hc | hc
    · exact .inl (hds c hc)
    · rcases List.mem_cons.mp hc with rfl | hc
      · exact .inr rfl
      · exact .inl (hes c hc)

/-- Digits with the point where it belongs are a decimal, if no zero follows the
point of an integer. -/
theorem isDecimal_layPositional {style : NumberStyle} (hstyle : style.pointZero = false)
    (d : Decimal) : IsDecimal (style.layPositional d) := by
  have hdigits : ∀ c ∈ Nat.toDigits 10 d.digits, c.isDigit = true :=
    fun c hc => Nat.isDigit_of_mem_toDigits (by decide) (by decide) hc
  have hzeros (n : Nat) : ∀ c ∈ List.replicate n '0', c.isDigit = true := by
    intro c hc
    rw [List.eq_of_mem_replicate hc]
    rfl
  unfold layPositional
  dsimp only
  split
  · rw [hstyle, if_neg Bool.false_ne_true, List.append_nil]
    refine .integer (List.append_ne_nil_of_left_ne_nil Nat.toDigits_ne_nil _) fun c hc => ?_
    exact (List.mem_append.mp hc).elim (hdigits c) (hzeros _ c)
  · split
    · next hplaces =>
      -- the point stands among the digits
      refine .point (fun hempty => ?_) (fun c hc => hdigits c (List.mem_of_mem_take hc))
        fun c hc => hdigits c (List.mem_of_mem_drop hc)
      rcases List.take_eq_nil_iff.mp hempty with hnone | hnone
      · omega
      · exact Nat.toDigits_ne_nil hnone
    · -- the point stands in front of all of them
      refine .point (List.cons_ne_nil '0' []) (List.forall_mem_singleton.mpr rfl) fun c hc => ?_
      exact (List.mem_append.mp hc).elim (hzeros _ c) (hdigits c)

/-! ## The texts of finite numbers -/

section

variable {x : Float}

/-- The text of a finite number is a decimal, which may have a minus in front. -/
theorem toList_render (hfinite : x.isFinite = true) :
    ∃ sign ds, (plain.render x).toList = sign ++ ds ∧ (sign = [] ∨ sign = ['-']) ∧
      IsDecimal ds := by
  unfold render
  rw [isNaN_of_isFinite hfinite, isInf_of_isFinite hfinite]
  refine ⟨_, _, String.toList_ofList, ?_, isDecimal_layPositional rfl _⟩
  split
  · exact .inr rfl
  · exact .inl rfl

/-- Only the zero below zero is shown without its sign. -/
theorem render_grid (hfinite : x.isFinite = true) (hzero : x ≠ -0) :
    grid.render x = plain.render x := by
  have hsign (always : Bool) : (decide (0x8000000000000000 ≤ x.toBits) && (always || x != 0)) =
      decide (0x8000000000000000 ≤ x.toBits) := by
    cases hx : x == 0 with
    | true =>
      rw [toBits_of_beq_zero hx hzero]
      rfl
    | false => rw [bne, hx, Bool.not_false, Bool.or_true, Bool.and_true]
  unfold render
  rw [isNaN_of_isFinite hfinite, isInf_of_isFinite hfinite]
  simp only [hsign]
  rfl

end

end NumberStyle

/-! ## Numbers that are typed -/

section

variable {x : Float}

/-- The text of a finite number has neither blank characters nor a `=` in front. -/
theorem NumberStyle.ne_equals_of_mem_render (hfinite : x.isFinite = true) {c : Char}
    (hc : c ∈ (plain.render x).toList) : Text.isBlank c = false ∧ c ≠ '=' := by
  obtain ⟨sign, ds, htext, hsign, hds⟩ := toList_render hfinite
  rw [htext] at hc
  rcases List.mem_append.mp hc with hc | hc
  · rcases hsign with rfl | rfl
    · cases hc
    · obtain rfl := List.mem_singleton.mp hc
      decide
  · rcases hds.isDigit_or_point hc with hc | rfl
    · refine ⟨Text.isBlank_of_isDigit hc, ?_⟩
      rintro rfl
      cases hc
    · decide

/-- If the text of a finite number reads back as the number, then the number is what the text is
worth when it is typed. -/
theorem Value.ofInput_render (hfinite : x.isFinite = true)
    (hreads : readNumber? (NumberStyle.plain.render x) = some x) :
    formulaBody? (NumberStyle.plain.render x) = none ∧
      Value.ofInput (NumberStyle.plain.render x) = .number x := by
  have hchars {c : Char} (hc : c ∈ (NumberStyle.plain.render x).toList) :=
    NumberStyle.ne_equals_of_mem_render hfinite hc
  constructor
  · unfold formulaBody?
    split
    · next body hbody =>
      exact absurd rfl (hchars (by rw [hbody]; exact List.mem_cons_self)).2
    · rfl
  · have htrim : Text.trim (NumberStyle.plain.render x).toList =
        (NumberStyle.plain.render x).toList :=
      Text.trim_of_forall fun c hc => (hchars hc).1
    have hne : (NumberStyle.plain.render x).toList.isEmpty = false := by
      obtain ⟨sign, ds, htext, -, hds⟩ := NumberStyle.toList_render hfinite
      rw [htext, List.isEmpty_eq_false_iff]
      exact List.append_ne_nil_of_right_ne_nil _ hds.ne_nil
    unfold readNumber? at hreads
    unfold Value.ofInput
    dsimp only
    rw [htrim, hne, hreads]
    exact if_pos hfinite

end

end Spreadsheet
