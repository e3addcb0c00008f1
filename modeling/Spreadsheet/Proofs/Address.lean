import Mathlib.Data.List.Induction
import Spreadsheet.Address
import Spreadsheet.Proofs.Outcome
import Spreadsheet.Proofs.Text.Case

/-!
# Addresses as they are written

An address is written with letters and digits and with a mark in front of either. Marks, the
case of letters and zeros in front of the digits do not count for the position.

- `Written`, `Written.takeParts`: the parts of a written address, and how they are told apart.
- `parseColumn_eq`, `parseRow_eq`: the column of letters and the row of digits.
- `Written.parse_eq`, `Written.parse_eq_ite`: what is read of a written address,
  and why it is refused.
- `written_of_parse`: what is read was written.
- `parse_text_eq`, `parse_text`: what is read of an address that is shown.
- `SameSpelling`, `SameSpelling.position?_eq`: spellings of one position.
-/

namespace Spreadsheet

namespace Numeral

theorem digitsValue_eq (cs : List Char) : digitsValue cs = Nat.ofDigitChars 10 cs 0 :=
  Nat.ofDigitChars_eq_foldl.symm

theorem digitsValue_toDigits (n : Nat) : digitsValue (Nat.toDigits 10 n) = n := by
  rw [digitsValue_eq, Nat.ofDigitChars_ten_toDigits]

/-- Zeros in front of other digits do not count. -/
theorem digitsValue_zeros (n : Nat) (cs : List Char) :
    digitsValue (List.replicate n '0' ++ cs) = digitsValue cs := by
  rw [digitsValue_eq, digitsValue_eq, Nat.ofDigitChars_append,
    Nat.ofDigitChars_replicate_zero, Nat.mul_zero]

end Numeral

namespace Column

/-- A label has the same value in small letters. -/
theorem number_map_toLower (cs : List Char) : number (cs.map Char.toLower) = number cs := by
  have hdigit (c : Char) : digit c.toLower = digit c := Text.apply_toLower (by decide) c
  unfold number
  rw [List.foldl_map]
  simp only [hdigit]

theorem label_ne_nil (n : Nat) : label n ≠ [] := by
  rw [label]
  split
  · exact List.cons_ne_nil _ _
  · exact List.append_ne_nil_of_right_ne_nil _ (List.cons_ne_nil _ _)

theorem isAlpha_label (n : Nat) : ∀ c ∈ label n, c.isAlpha = true := by
  have hletter (n : Nat) : (letter n).isAlpha = true := by
    -- There are only 26 remainders to look at.
    have h : ∀ k : Fin 26, (Char.ofNat ('A'.toNat + k)).isAlpha = true := by decide
    exact h ⟨n % 26, Nat.mod_lt n (by decide)⟩
  intro c hc
  by_cases h : n < 26
  · rw [label_of_lt h] at hc
    obtain rfl := List.mem_singleton.mp hc
    exact hletter n
  · rw [label_of_le (by omega)] at hc
    rcases List.mem_append.mp hc with hc | hc
    · exact isAlpha_label (n / 26 - 1) c hc
    · obtain rfl := List.mem_singleton.mp hc
      exact hletter n
termination_by n

end Column

namespace Address

/-! ## The parts -/

theorem ne_mark_of_isDigit {c : Char} (h : c.isDigit = true) : c ≠ '$' := by
  rintro rfl
  exact absurd h (by decide)

theorem ne_mark_of_isAlpha {c : Char} (h : c.isAlpha = true) : c ≠ '$' := by
  rintro rfl
  exact absurd h (by decide)

/-- A mark in front is taken if there is one, and nothing else is. -/
theorem takeMark_markText (marked : Bool) {c : Char} (hc : c ≠ '$') (cs : List Char) :
    takeMark (markText marked ++ c :: cs) = (marked, c :: cs) := by
  cases marked with
  | true => rfl
  | false =>
    unfold takeMark markText
    split
    · next h => exact absurd (List.cons.inj h).1 hc
    · rfl

/-- The text is written with the given marks, letters and digits. -/
structure Written (cs : List Char) (colMarked : Bool) (letters : List Char) (rowMarked : Bool)
    (digits : List Char) : Prop where
  text : cs = markText colMarked ++ letters ++ markText rowMarked ++ digits
  letters_ne : letters ≠ []
  isAlpha : ∀ c ∈ letters, c.isAlpha = true
  digits_ne : digits ≠ []
  isDigit : ∀ c ∈ digits, c.isDigit = true

section

variable {cs letters digits : List Char} {colMarked rowMarked : Bool}
  (h : Written cs colMarked letters rowMarked digits)

include h

/-- The letters of an address end at the second mark or at the first digit. -/
theorem Written.takeParts (rest : List Char) :
    takeMark (cs ++ rest) = (colMarked, letters ++ (markText rowMarked ++ digits ++ rest)) ∧
      (letters ++ (markText rowMarked ++ digits ++ rest)).takeWhile Char.isAlpha = letters ∧
      (letters ++ (markText rowMarked ++ digits ++ rest)).dropWhile Char.isAlpha =
        markText rowMarked ++ digits ++ rest ∧
      takeMark (markText rowMarked ++ digits ++ rest) = (rowMarked, digits ++ rest) := by
  obtain ⟨a, as, rfl⟩ := List.exists_cons_of_ne_nil h.letters_ne
  obtain ⟨d, ds, rfl⟩ := List.exists_cons_of_ne_nil h.digits_ne
  have ha : a.isAlpha = true := h.isAlpha a List.mem_cons_self
  have hd : d.isDigit = true := h.isDigit d List.mem_cons_self
  have hstop : ∀ c ∈ (markText rowMarked ++ d :: ds ++ rest).head?, c.isAlpha = false := by
    intro c hc
    cases rowMarked with
    | true =>
      obtain rfl : '$' = c := Option.some.inj hc
      decide
    | false =>
      obtain rfl : d = c := Option.some.inj hc
      exact Text.isAlpha_of_isDigit hd
  refine ⟨?_, Text.takeWhile_append_of_stop h.isAlpha hstop,
    Text.dropWhile_append_of_stop h.isAlpha hstop, ?_⟩
  · rw [h.text]
    simpa using takeMark_markText colMarked (ne_mark_of_isAlpha ha)
      (as ++ (markText rowMarked ++ d :: ds ++ rest))
  · simpa using takeMark_markText rowMarked (ne_mark_of_isDigit hd) (ds ++ rest)

/-- An address consists of marks, letters and digits. -/
theorem Written.mem_cases {c : Char} (hc : c ∈ cs) :
    c = '$' ∨ c.isAlpha = true ∨ c.isDigit = true := by
  have hmark {marked : Bool} (hc : c ∈ markText marked) : c = '$' := by
    cases marked with
    | true => exact List.mem_singleton.mp hc
    | false => cases hc
  rw [h.text] at hc
  simp only [List.mem_append] at hc
  rcases hc with ((hc | hc) | hc) | hc
  · exact .inl (hmark hc)
  · exact .inr (.inl (h.isAlpha c hc))
  · exact .inl (hmark hc)
  · exact .inr (.inr (h.isDigit c hc))

theorem Written.ne_nil : cs ≠ [] := by
  rw [h.text]
  exact List.append_ne_nil_of_right_ne_nil _ h.digits_ne

theorem Written.isBlank_of_mem {c : Char} (hc : c ∈ cs) : Text.isBlank c = false := by
  rcases h.mem_cases hc with rfl | hc | hc
  · decide
  · exact Text.isBlank_of_isAlpha hc
  · exact Text.isBlank_of_isDigit hc

end

/-! ## Columns and rows -/

theorem foldlM_addLetter {letters : List Char} (halpha : ∀ c ∈ letters, c.isAlpha = true) :
    letters.foldlM addLetter 0 =
      if Column.number letters ≤ Column.count then .ok (Column.number letters)
      else .error .columnTooLarge := by
  induction letters using List.reverseRecOn with
  | nil => rfl
  | append_singleton cs c ih =>
    have hc : c.isAlpha = true := halpha c List.mem_concat_self
    rw [List.foldlM_append, ih fun d hd => halpha d (List.mem_append_left _ hd),
      Column.number_append_single]
    by_cases hcs : Column.number cs ≤ Column.count
    · rw [if_pos hcs]
      show (addLetter (Column.number cs) c >>= fun n => .ok n) = _
      unfold addLetter
      rw [hc]
      by_cases hnext : 26 * Column.number cs + Column.digit c ≤ Column.count
      · rw [if_pos hnext, if_neg (Nat.not_lt.mpr hnext)]
        rfl
      · rw [if_neg hnext, if_pos (Nat.not_le.mp hnext)]
        rfl
    · -- what is too large stays so
      rw [if_neg hcs, if_neg (by omega)]
      rfl

/-- The column of letters that are a label. -/
theorem parseColumn_eq {letters : List Char} (hne : letters ≠ [])
    (halpha : ∀ c ∈ letters, c.isAlpha = true) :
    parseColumn letters =
      if Column.number letters ≤ Column.count then .ok (Column.number letters - 1)
      else .error .columnTooLarge := by
  obtain ⟨c, cs, rfl⟩ := List.exists_cons_of_ne_nil hne
  show ((c :: cs).foldlM addLetter 0).map (· - 1) = _
  rw [foldlM_addLetter halpha]
  split <;> rfl

/-- The row of digits, and the errors for rows that the sheet cannot have. -/
theorem parseRow_eq {digits : List Char} (hne : digits ≠ [])
    (hdigit : ∀ c ∈ digits, c.isDigit = true) (text : String) :
    parseRow digits text =
      if Numeral.digitsValue digits = 0 then .error (.rowZero text)
      else if rowCount < Numeral.digitsValue digits then
        .error (.rowTooLarge (min (Numeral.digitsValue digits - 1) reportedRowLimit))
      else .ok (Numeral.digitsValue digits - 1) := by
  have hempty : digits.isEmpty = false := by simpa using hne
  have hall : digits.all Char.isDigit = true := List.all_eq_true.mpr hdigit
  unfold parseRow
  rw [hempty, hall]
  rfl

/-! ## Reading what is written -/

section

variable {text : String} {letters digits : List Char} {colMarked rowMarked : Bool}
  (h : Written text.toList colMarked letters rowMarked digits)

include h

/-- What is read of a written address: the column first, then the row. -/
theorem Written.parse_eq : parse text = do
    let col ← parseColumn letters
    let row ← parseRow digits text
    return ⟨⟨row, col⟩, colMarked, rowMarked⟩ := by
  obtain ⟨hcol, htake, hdrop, hrow⟩ := h.takeParts []
  simp only [List.append_nil] at hcol htake hdrop hrow
  have hletters : letters.isEmpty = false := by simpa using h.letters_ne
  unfold parse
  rw [Text.trim_of_forall fun _ => h.isBlank_of_mem, parseTrimmed, hcol]
  dsimp only
  rw [htake, hdrop, hrow, hletters, String.ofList_toList]
  rfl

/-- A written address is refused for nothing but a column past the last one, the row zero, or a
row past the last one. -/
theorem Written.parse_eq_ite : parse text =
    if Column.number letters ≤ Column.count then
      if Numeral.digitsValue digits = 0 then .error (.rowZero text)
      else if rowCount < Numeral.digitsValue digits then
        .error (.rowTooLarge (min (Numeral.digitsValue digits - 1) reportedRowLimit))
      else .ok ⟨⟨Numeral.digitsValue digits - 1, Column.number letters - 1⟩,
        colMarked, rowMarked⟩
    else .error .columnTooLarge := by
  rw [h.parse_eq, parseColumn_eq h.letters_ne h.isAlpha, parseRow_eq h.digits_ne h.isDigit]
  by_cases hcol : Column.number letters ≤ Column.count
  · rw [if_pos hcol, if_pos hcol]
    by_cases hzero : Numeral.digitsValue digits = 0
    · rw [if_pos hzero, if_pos hzero]
      rfl
    · rw [if_neg hzero, if_neg hzero]
      by_cases hrow : rowCount < Numeral.digitsValue digits
      · rw [if_pos hrow, if_pos hrow]
        rfl
      · rw [if_neg hrow, if_neg hrow]
        rfl
  · rw [if_neg hcol, if_neg hcol]
    rfl

end

theorem digits_of_parseRow {digits : List Char} {text : String} {row : Nat}
    (h : parseRow digits text = .ok row) : digits ≠ [] ∧ ∀ c ∈ digits, c.isDigit = true := by
  unfold parseRow at h
  split at h
  · cases h
  next hne =>
  split at h
  · cases h
  next hall =>
  exact ⟨by simpa using hne, by simpa using hall⟩

/-- A text is written with the marks that are split off, the letters behind the first one and
the rest behind the second one, if there are letters and if the rest consists of digits. -/
theorem written_of_takeMark {cs letters tail : List Char}
    (hletters : letters = (takeMark cs).2.takeWhile Char.isAlpha)
    (htail : tail = (takeMark cs).2.dropWhile Char.isAlpha) (hne : letters ≠ [])
    (hdigits : (takeMark tail).2 ≠ []) (hdigit : ∀ c ∈ (takeMark tail).2, c.isDigit = true) :
    Written cs (takeMark cs).1 letters (takeMark tail).1 (takeMark tail).2 where
  text := by
    subst hletters htail
    rw [List.append_assoc, takeMark_append, List.append_assoc, List.takeWhile_append_dropWhile,
      takeMark_append]
  letters_ne := hne
  isAlpha := by
    subst hletters
    exact fun c hc => List.all_eq_true.mp List.all_takeWhile c hc
  digits_ne := hdigits
  isDigit := hdigit

/-- What is read was written with the same marks, apart from blank ends. -/
theorem written_of_parse {text : String} {a : Address} (h : parse text = .ok a) :
    ∃ letters digits,
      Written (Text.trim text.toList) a.colMarked letters a.rowMarked digits := by
  unfold parse parseTrimmed at h
  generalize Text.trim text.toList = cs at *
  dsimp only at h
  split at h
  · cases h
  next hletters =>
  obtain ⟨col, -, h⟩ := bind_eq_ok_iff.mp h
  obtain ⟨row, hrow, h⟩ := bind_eq_ok_iff.mp h
  cases h
  obtain ⟨hne, hdigit⟩ := digits_of_parseRow hrow
  exact ⟨_, _, written_of_takeMark rfl rfl (by simpa using hletters) hne hdigit⟩

/-- An address is shown with its marks, its label and its row. -/
theorem written_text (a : Address) :
    Written a.text.toList a.colMarked (Column.label a.position.col)
    a.rowMarked (Nat.toDigits 10 (a.position.row + 1)) where
  text := by rw [text, String.toList_ofList, chars]
  letters_ne := Column.label_ne_nil _
  isAlpha := Column.isAlpha_label _
  digits_ne := Nat.toDigits_ne_nil
  isDigit := fun c hc => Nat.isDigit_of_mem_toDigits (by decide) (by decide) hc

/-- What is read of an address that is shown: the address itself, unless its column or its row
is past the last one that an address can name. -/
theorem parse_text_eq (a : Address) : parse a.text =
    if a.position.col < Column.count then
      if a.position.row < rowCount then .ok a
      else .error (.rowTooLarge (min a.position.row reportedRowLimit))
    else .error .columnTooLarge := by
  rw [(written_text a).parse_eq_ite, Column.number_label, Numeral.digitsValue_toDigits,
    if_neg (Nat.succ_ne_zero _), Nat.add_one_sub_one, Nat.add_one_sub_one]
  by_cases hcol : a.position.col < Column.count
  · rw [if_pos hcol, if_pos (Nat.succ_le_of_lt hcol)]
    by_cases hrow : a.position.row < rowCount
    · rw [if_pos hrow, if_neg (Nat.not_lt.mpr hrow)]
    · rw [if_neg hrow, if_pos (Nat.lt_succ_of_le (Nat.not_lt.mp hrow))]
  · rw [if_neg hcol, if_neg (mt Nat.lt_of_succ_le hcol)]

/-- An address that is shown is read back, if a sheet can have such a cell. -/
theorem parse_text {a : Address} (hrow : a.position.row < rowCount)
    (hcol : a.position.col < Column.count) : parse a.text = .ok a := by
  rw [parse_text_eq, if_pos hcol, if_pos hrow]

/-! ## Spellings -/

/-- The position that a text names, if it is an address. -/
def position? (text : String) : Option Position := (parse text).toOption.map Address.position

/-- The same text, or two addresses that differ at most in their marks, in the case of their
letters and in zeros in front of their digits. -/
inductive SameSpelling : String → String → Prop
  | refl (a : String) : SameSpelling a a
  | parts {a b : String} {colMarked rowMarked colMarked' rowMarked' : Bool}
      {letters letters' digits : List Char} {m n : Nat}
      (ha : Written a.toList colMarked letters rowMarked (List.replicate m '0' ++ digits))
      (hb : Written b.toList colMarked' letters' rowMarked' (List.replicate n '0' ++ digits))
      (hletters : Text.SameLetters letters letters') : SameSpelling a b

/-- The position of a written address, counted from 0, if a sheet can have it. -/
theorem Written.position?_eq {text : String} {letters digits : List Char}
    {colMarked rowMarked : Bool} (h : Written text.toList colMarked letters rowMarked digits) :
    position? text =
      if Column.number letters ≤ Column.count ∧ Numeral.digitsValue digits ≠ 0 ∧
        Numeral.digitsValue digits ≤ rowCount
      then some ⟨Numeral.digitsValue digits - 1, Column.number letters - 1⟩ else none := by
  unfold position?
  rw [h.parse_eq_ite]
  by_cases hcol : Column.number letters ≤ Column.count
  · by_cases hzero : Numeral.digitsValue digits = 0
    · rw [if_pos hcol, if_pos hzero, if_neg fun hall => hall.2.1 hzero]
      rfl
    · by_cases hrow : Numeral.digitsValue digits ≤ rowCount
      · rw [if_pos hcol, if_neg hzero, if_neg (Nat.not_lt.mpr hrow), if_pos ⟨hcol, hzero, hrow⟩]
        rfl
      · rw [if_pos hcol, if_neg hzero, if_pos (Nat.not_le.mp hrow),
          if_neg fun hall => hrow hall.2.2]
        rfl
  · rw [if_neg hcol, if_neg fun hall => hcol hall.1]
    rfl

/-- Marks, the case of letters and zeros in front of digits do not count for the position. -/
theorem SameSpelling.position?_eq {a b : String} (h : SameSpelling a b) :
    position? a = position? b := by
  cases h with
  | refl => rfl
  | parts ha hb hletters =>
    rw [ha.position?_eq, hb.position?_eq, Numeral.digitsValue_zeros, Numeral.digitsValue_zeros,
      ← Column.number_map_toLower, hletters, Column.number_map_toLower]

end Address

end Spreadsheet
