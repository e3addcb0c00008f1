import Mathlib.Data.List.Basic
import Mathlib.Data.List.TakeWhile
import Spreadsheet.Proofs.Address

/-!
# The language of addresses

Which texts are addresses, what is wrong with the others, and how an address is shown. Letters
count in either case and zeros in front of a row do not count, so a position has many
spellings; one of them is shown.

- `Column.label_number`: letters are the label of the column that they name,
  apart from their case.
- `Numeral.toDigits_digitsValue`: digits without zeros in front are the ones in
  which their value is written.
- `Address.Names`, `Address.PastLastColumn`, `Address.PastLastRow`,
  `Address.Error.Invalid`: what a text can say.
- `Address.parse_error_cases`: a text that is not read is past the last column or
  row, or it is no address.
- `Address.parse_ok_iff_names`, `Address.parse_columnTooLarge_iff`,
  `Address.parse_rowTooLarge_iff`, `Address.parse_invalid_iff`: what is read of each text.
- `Address.toList_text_of_names`: an address is shown as it was written, in capitals
  and without zeros in front.
- `Address.address_language`: all of it.
-/

namespace Spreadsheet

namespace Column

/-! ## Letters and labels -/

/-- The letter of a digit is the letter that the digit was read from, as a capital. -/
theorem letter_digit {c : Char} (h : c.isAlpha = true) :
    digit c ≤ 26 ∧ ∀ n, letter (26 * n + (digit c - 1)) = c.toUpper := by
  have hascii : ∀ k : Fin 128, (Char.ofNat k).isAlpha = true → digit (Char.ofNat k) ≤ 26 ∧
      Char.ofNat ('A'.toNat + (digit (Char.ofNat k) - 1)) = (Char.ofNat k).toUpper := by decide
  have hlt : c.toNat < 128 := by
    have := Text.toNat_of_isAlpha h
    omega
  have hc := hascii ⟨c.toNat, hlt⟩
  simp only [Char.ofNat_toNat] at hc
  obtain ⟨hle, hletter⟩ := hc h
  refine ⟨hle, fun n => ?_⟩
  have hmod : (26 * n + (digit c - 1)) % 26 = digit c - 1 := by omega
  rw [letter, hmod, hletter]

theorem number_pos {letters : List Char} (h : letters ≠ []) : 0 < number letters := by
  obtain ⟨cs, c, rfl⟩ := (List.eq_nil_or_concat' letters).resolve_left h
  have hdigit : 0 < digit c := Nat.succ_pos _
  rw [number_append_single]
  omega

/-- More letters name a column further to the right. -/
theorem number_le_append (letters more : List Char) :
    number letters ≤ number (letters ++ more) := by
  induction more using List.reverseRecOn with
  | nil => simp
  | append_singleton cs c ih =>
    rw [← List.append_assoc, number_append_single]
    omega

/-- Letters are the label of the column that they name, apart from their case. -/
theorem label_number {letters : List Char} (hne : letters ≠ [])
    (halpha : ∀ c ∈ letters, c.isAlpha = true) :
    label (number letters - 1) = letters.map Char.toUpper := by
  induction letters using List.reverseRecOn with
  | nil => exact absurd rfl hne
  | append_singleton cs c ih =>
    obtain ⟨hle, hletter⟩ := letter_digit (halpha c List.mem_concat_self)
    have hdigit : 0 < digit c := Nat.succ_pos _
    have hnumber : number (cs ++ [c]) - 1 = 26 * number cs + (digit c - 1) := by
      rw [number_append_single]
      omega
    rw [hnumber, List.map_append]
    by_cases hcs : cs = []
    · subst hcs
      rw [label_of_lt (by simp; omega), hletter]
      rfl
    · -- what is in front names a column, so the label has more than one letter
      have hfront : 0 < number cs := number_pos hcs
      have hdiv : (26 * number cs + (digit c - 1)) / 26 = number cs := by omega
      rw [label_of_le (by omega), hletter, hdiv,
        ih hcs fun d hd => halpha d (List.mem_append_left _ hd)]
      rfl

end Column

namespace Numeral

/-! ## Digits and values -/

theorem digitChar_digitValue {c : Char} (h : c.isDigit = true) :
    Nat.digitChar (digitValue c) = c := by
  have hc := Text.toNat_of_isDigit h
  have hzero : '0'.toNat = 48 := rfl
  apply Char.toNat_inj.mp
  rw [digitValue, hzero, Nat.toNat_digitChar_of_lt_ten (by omega)]
  omega

theorem digitValue_lt {c : Char} (h : c.isDigit = true) : digitValue c < 10 := by
  have hc := Text.toNat_of_isDigit h
  have hzero : '0'.toNat = 48 := rfl
  rw [digitValue, hzero]
  omega

/-- Digits without zeros in front are the ones in which their value is written. -/
theorem toDigits_digitsValue {digits : List Char} (hne : digits ≠ [])
    (hdigit : ∀ c ∈ digits, c.isDigit = true) (hhead : digits.head? ≠ some '0') :
    Nat.toDigits 10 (digitsValue digits) = digits := by
  induction digits using List.reverseRecOn with
  | nil => exact absurd rfl hne
  | append_singleton cs c ih =>
    have hc : c.isDigit = true := hdigit c List.mem_concat_self
    have hlast : Nat.toDigits 10 (digitValue c) = [c] := by
      rw [Nat.toDigits_of_lt_base (digitValue_lt hc), digitChar_digitValue hc]
    rw [digitsValue_concat]
    by_cases hcs : cs = []
    · subst hcs
      simpa using hlast
    · rw [List.head?_append_of_ne_nil _ hcs] at hhead
      have hfront := ih hcs (fun d hd => hdigit d (List.mem_append_left _ hd)) hhead
      have hpos : 0 < digitsValue cs := by
        refine Nat.pos_of_ne_zero fun hzero => hhead ?_
        rw [← hfront, hzero, Nat.toDigits_zero]
        rfl
      rw [← Nat.toDigits_append_toDigits (by decide) hpos (digitValue_lt hc), hfront, hlast]

/-- Digits are zeros and then digits without zeros in front. -/
theorem exists_zeros (digits : List Char) : ∃ n rest,
    digits = List.replicate n '0' ++ rest ∧ rest.head? ≠ some '0' := by
  induction digits with
  | nil => exact ⟨0, [], rfl, nofun⟩
  | cons c cs ih =>
    by_cases hc : c = '0'
    · obtain ⟨n, rest, rfl, hrest⟩ := ih
      exact ⟨n + 1, rest, by rw [hc, List.replicate_succ, List.cons_append], hrest⟩
    · exact ⟨0, c :: cs, rfl, by simpa using hc⟩

end Numeral

namespace Address

/-! ## What a text can say -/

/-- The text is written with the marks of the address, letters of its column and digits of its
row, and both are within the limits. -/
def Names (cs : List Char) (a : Address) : Prop :=
  ∃ letters digits, Written cs a.colMarked letters a.rowMarked digits ∧
    Column.number letters = a.position.col + 1 ∧ a.position.col + 1 ≤ Column.count ∧
    Numeral.digitsValue digits = a.position.row + 1 ∧ a.position.row + 1 ≤ rowCount

/-- The text starts with letters of a column past the last one, whatever follows them. -/
def PastLastColumn (cs : List Char) : Prop :=
  ∃ marked letters rest, cs = markText marked ++ letters ++ rest ∧
    (∀ c ∈ letters, c.isAlpha = true) ∧
    Column.count < Column.number letters

/-- The text is written as an address is, and its column can be named, but the number of its row
is past the last one. -/
def PastLastRow (cs : List Char) (number : Nat) : Prop :=
  ∃ colMarked letters rowMarked digits, Written cs colMarked letters rowMarked digits ∧
    Column.number letters ≤ Column.count ∧ Numeral.digitsValue digits = number ∧
    rowCount < number

/-- The errors that call a text an invalid address and quote it. -/
inductive Error.Invalid (text : String) : Error → Prop
  | noColumn : Invalid text (.noColumn text)
  | noRow : Invalid text (.noRow text)
  | badRow : Invalid text (.badRow text)
  | rowZero : Invalid text (.rowZero text)

/-! ## What is read of it -/

section

variable {text : String}

/-- What is read of a written address with blank ends. -/
theorem Written.parse_eq_of_trim {letters digits : List Char} {colMarked rowMarked : Bool}
    (h : Written (Text.trim text.toList) colMarked letters rowMarked digits) : parse text =
      if Column.number letters ≤ Column.count then
        if Numeral.digitsValue digits = 0 then .error (.rowZero (Text.trimmed text))
        else if rowCount < Numeral.digitsValue digits then
          .error (.rowTooLarge (min (Numeral.digitsValue digits - 1) reportedRowLimit))
        else .ok ⟨⟨Numeral.digitsValue digits - 1, Column.number letters - 1⟩,
          colMarked, rowMarked⟩
      else .error .columnTooLarge := by
  have htext : (Text.trimmed text).toList = Text.trim text.toList := String.toList_ofList
  have hparse : parse text = parse (Text.trimmed text) := by
    unfold parse
    rw [htext, Text.trim_of_forall fun _ => h.isBlank_of_mem]
  rw [← htext] at h
  rw [hparse, h.parse_eq_ite]

theorem parse_ok_iff_names {a : Address} :
    parse text = .ok a ↔ Names (Text.trim text.toList) a := by
  constructor
  · intro h
    obtain ⟨letters, digits, hwritten⟩ := written_of_parse h
    have hletters : 0 < Column.number letters := Column.number_pos hwritten.letters_ne
    rw [hwritten.parse_eq_of_trim] at h
    split at h
    next hcol =>
      split at h
      · cases h
      next hzero =>
      split at h
      · cases h
      next hrow =>
      have ha := Except.ok.inj h
      have hposition :
          (⟨Numeral.digitsValue digits - 1, Column.number letters - 1⟩ : Position) =
            a.position := congrArg Address.position ha
      refine ⟨letters, digits, hwritten, ?_⟩
      rw [← hposition]
      dsimp only
      omega
    next => cases h
  · rintro ⟨letters, digits, hwritten, hcol, hcount, hrow, hrows⟩
    rw [hwritten.parse_eq_of_trim, hcol, hrow, if_pos hcount, if_neg (Nat.succ_ne_zero _),
      if_neg (Nat.not_lt.mpr hrows)]
    rfl

/-- A column past the last one is found before anything that follows its letters
is looked at. -/
theorem parse_of_pastLastColumn (h : PastLastColumn (Text.trim text.toList)) :
    parse text = .error .columnTooLarge := by
  obtain ⟨marked, letters, rest, htext, halpha, hnumber⟩ := h
  have hne : letters ≠ [] := by
    rintro rfl
    exact absurd hnumber (by decide)
  have htake : takeMark (Text.trim text.toList) = (marked, letters ++ rest) := by
    obtain ⟨c, cs, rfl⟩ := List.exists_cons_of_ne_nil hne
    rw [htext, List.append_assoc]
    exact takeMark_markText marked (ne_mark_of_isAlpha (halpha c List.mem_cons_self)) _
  have hrun : (letters ++ rest).takeWhile Char.isAlpha =
      letters ++ rest.takeWhile Char.isAlpha :=
    List.takeWhile_append_of_pos halpha
  have hrunNe : letters ++ rest.takeWhile Char.isAlpha ≠ [] :=
    List.append_ne_nil_of_left_ne_nil hne _
  have hrunAlpha : ∀ c ∈ letters ++ rest.takeWhile Char.isAlpha, c.isAlpha = true := by
    intro c hc
    rw [← hrun] at hc
    exact List.mem_takeWhile_imp hc
  have hpast : ¬ Column.number (letters ++ rest.takeWhile Char.isAlpha) ≤ Column.count := by
    have := Column.number_le_append letters (rest.takeWhile Char.isAlpha)
    omega
  have hempty : (letters ++ rest.takeWhile Char.isAlpha).isEmpty = false := by
    simpa using hrunNe
  unfold parse parseTrimmed
  rw [htake]
  dsimp only
  rw [hrun, hempty, parseColumn_eq hrunNe hrunAlpha, if_neg hpast]
  rfl

theorem parse_of_pastLastRow {number : Nat} (h : PastLastRow (Text.trim text.toList) number) :
    parse text = .error (.rowTooLarge (min (number - 1) reportedRowLimit)) := by
  obtain ⟨colMarked, letters, rowMarked, digits, hwritten, hcol, rfl, hrow⟩ := h
  rw [hwritten.parse_eq_of_trim, if_pos hcol, if_neg (by omega), if_pos hrow]

/-- Digits are refused because they are no digits, or for their value. -/
theorem parseRow_error_cases {digits : List Char} {e : Error}
    (h : parseRow digits text = .error e) :
    e.Invalid text ∨ digits ≠ [] ∧ (∀ c ∈ digits, c.isDigit = true) ∧
      rowCount < Numeral.digitsValue digits ∧
      e = .rowTooLarge (min (Numeral.digitsValue digits - 1) reportedRowLimit) := by
  unfold parseRow at h
  split at h
  · cases h
    exact .inl .noRow
  next hne =>
  split at h
  · cases h
    exact .inl .badRow
  next hall =>
  dsimp only at h
  split at h
  · cases h
    exact .inl .rowZero
  split at h
  next hrow =>
    cases h
    exact .inr ⟨by simpa using hne, by simpa using hall, hrow, rfl⟩
  · cases h

/-- A text is refused for a column or a row past the last one, or because it is no address. -/
theorem parse_error_cases {e : Error} (h : parse text = .error e) :
    e = .columnTooLarge ∧ PastLastColumn (Text.trim text.toList) ∨
      (∃ number, e = .rowTooLarge (min (number - 1) reportedRowLimit) ∧
        PastLastRow (Text.trim text.toList) number) ∨
      e.Invalid (Text.trimmed text) := by
  unfold parse parseTrimmed at h
  unfold Text.trimmed
  generalize Text.trim text.toList = cs at *
  dsimp only at h
  split at h
  · cases h
    exact .inr (.inr .noColumn)
  next hletters =>
  have hne : (takeMark cs).2.takeWhile Char.isAlpha ≠ [] := by simpa using hletters
  have halpha : ∀ c ∈ (takeMark cs).2.takeWhile Char.isAlpha, c.isAlpha = true :=
    fun c hc => List.mem_takeWhile_imp hc
  rw [parseColumn_eq hne halpha] at h
  by_cases hcount : Column.number ((takeMark cs).2.takeWhile Char.isAlpha) ≤ Column.count
  · rw [if_pos hcount] at h
    obtain hcol | ⟨col, -, h⟩ := bind_eq_error_iff.mp h
    · cases hcol
    rcases bind_eq_error_iff.mp h with hrow | ⟨row, -, h⟩
    · rcases parseRow_error_cases hrow with hinvalid | ⟨hdigits, hdigit, hpast, rfl⟩
      · exact .inr (.inr hinvalid)
      · have hwritten := written_of_takeMark rfl rfl hne hdigits hdigit
        exact .inr (.inl ⟨_, rfl, _, _, _, _, hwritten, hcount, rfl, hpast⟩)
    · cases h
  · rw [if_neg hcount] at h
    cases h
    refine .inl ⟨rfl, (takeMark cs).1, _, (takeMark cs).2.dropWhile Char.isAlpha, ?_, halpha,
      Nat.lt_of_not_le hcount⟩
    rw [List.append_assoc, List.takeWhile_append_dropWhile, takeMark_append]

theorem parse_columnTooLarge_iff :
    parse text = .error .columnTooLarge ↔ PastLastColumn (Text.trim text.toList) := by
  refine ⟨fun h => ?_, parse_of_pastLastColumn⟩
  rcases parse_error_cases h with ⟨-, hpast⟩ | ⟨_, he, -⟩ | he
  · exact hpast
  · cases he
  · cases he

theorem parse_rowTooLarge_iff {row : Nat} :
    parse text = .error (.rowTooLarge row) ↔
      ∃ number, PastLastRow (Text.trim text.toList) number ∧
        row = min (number - 1) reportedRowLimit := by
  constructor
  · intro h
    rcases parse_error_cases h with ⟨he, -⟩ | ⟨number, he, hpast⟩ | he
    · cases he
    · exact ⟨number, hpast, Error.rowTooLarge.inj he⟩
    · cases he
  · rintro ⟨number, hpast, rfl⟩
    exact parse_of_pastLastRow hpast

/-- A text that says nothing else is an invalid address. -/
theorem parse_invalid_iff :
    (∃ e, parse text = .error e ∧ e.Invalid (Text.trimmed text)) ↔
      (∀ a, ¬ Names (Text.trim text.toList) a) ∧ ¬ PastLastColumn (Text.trim text.toList) ∧
        ∀ number, ¬ PastLastRow (Text.trim text.toList) number := by
  constructor
  · rintro ⟨e, h, he⟩
    refine ⟨fun a hnames => ?_, fun hpast => ?_, fun number hpast => ?_⟩
    · cases (parse_ok_iff_names.mpr hnames).symm.trans h
    · cases (parse_of_pastLastColumn hpast).symm.trans h
      cases he
    · cases (parse_of_pastLastRow hpast).symm.trans h
      cases he
  · rintro ⟨hnames, hcol, hrow⟩
    cases h : parse text with
    | ok a => exact absurd (parse_ok_iff_names.mp h) (hnames a)
    | error e =>
      rcases parse_error_cases h with ⟨-, hpast⟩ | ⟨number, -, hpast⟩ | he
      · exact absurd hpast hcol
      · exact absurd hpast (hrow number)
      · exact ⟨e, rfl, he⟩

end

/-! ## How it is shown -/

/-- An address that is shown is read back exactly if it is within the limits. -/
theorem parse_text_iff (a : Address) :
    parse a.text = .ok a ↔ a.position.row < rowCount ∧ a.position.col < Column.count := by
  rw [parse_text_eq]
  by_cases hcol : a.position.col < Column.count
  · by_cases hrow : a.position.row < rowCount
    · simp [hcol, hrow]
    · simp [hcol, hrow]
  · simp [hcol]

theorem toUpper_of_isDigit {c : Char} (h : c.isDigit = true) : c.toUpper = c := by
  have hc := Text.toNat_of_isDigit h
  refine dif_neg fun ⟨hmin, _⟩ => ?_
  have hmin : 97 ≤ c.toNat := UInt32.le_iff_toNat_le.mp hmin
  omega

/-- An address that is read of a text is shown as the text, in capitals and without
zeros in front of the row. -/
theorem toList_text_of_names {cs : List Char} {a : Address} (h : Names cs a) :
    ∃ letters zeros digits,
      Written cs a.colMarked letters a.rowMarked (List.replicate zeros '0' ++ digits) ∧
      digits.head? ≠ some '0' ∧
      a.text.toList =
        (markText a.colMarked ++ letters ++ markText a.rowMarked ++ digits).map
          Char.toUpper := by
  obtain ⟨letters, digits, hwritten, hcol, -, hrow, -⟩ := h
  obtain ⟨zeros, rest, rfl, hhead⟩ := Numeral.exists_zeros digits
  rw [Numeral.digitsValue_zeros] at hrow
  have hne : rest ≠ [] := by
    rintro rfl
    cases hrow
  have hdigit : ∀ c ∈ rest, c.isDigit = true :=
    fun c hc => hwritten.isDigit c (List.mem_append_right _ hc)
  have hlabel : Column.label a.position.col = letters.map Char.toUpper := by
    rw [← Column.label_number hwritten.letters_ne hwritten.isAlpha, hcol, Nat.add_one_sub_one]
  have hdigits : Nat.toDigits 10 (a.position.row + 1) = rest := by
    rw [← hrow, Numeral.toDigits_digitsValue hne hdigit hhead]
  have hmark (marked : Bool) : (markText marked).map Char.toUpper = markText marked := by
    cases marked <;> rfl
  have hupper : rest.map Char.toUpper = rest := by
    rw [List.map_congr_left fun c hc => toUpper_of_isDigit (hdigit c hc), List.map_id']
  refine ⟨letters, zeros, rest, hwritten, hhead, ?_⟩
  rw [text, String.toList_ofList, chars, hlabel, hdigits]
  simp only [List.map_append, hmark, hupper]

/-- An address is an optional mark, letters of a column that can be named, an optional mark and
digits of a row that can be named, with any zeros in front, and blank ends do not count. A
column past the last one is reported whatever follows its letters, a row past the last one up to
a greatest index, and any other text is no address. What is read is shown as it was written, in
capitals and without zeros in front, and what is shown is read back. -/
theorem address_language (text : String) :
    let cs := Text.trim text.toList
    (∀ a, parse text = .ok a ↔ Names cs a) ∧
    (parse text = .error .columnTooLarge ↔ PastLastColumn cs) ∧
    (∀ row, parse text = .error (.rowTooLarge row) ↔
      ∃ number, PastLastRow cs number ∧ row = min (number - 1) reportedRowLimit) ∧
    ((∃ e, parse text = .error e ∧ e.Invalid (.ofList cs)) ↔
      (∀ a, ¬ Names cs a) ∧ ¬ PastLastColumn cs ∧ ∀ number, ¬ PastLastRow cs number) ∧
    (∀ a, parse text = .ok a → ∃ letters zeros digits,
      Written cs a.colMarked letters a.rowMarked (List.replicate zeros '0' ++ digits) ∧
      digits.head? ≠ some '0' ∧
      a.text.toList =
        (markText a.colMarked ++ letters ++ markText a.rowMarked ++ digits).map Char.toUpper) ∧
    ∀ a : Address, parse a.text = .ok a ↔
      a.position.row < rowCount ∧ a.position.col < Column.count := by
  intro cs
  exact ⟨fun a => parse_ok_iff_names, parse_columnTooLarge_iff,
    fun row => parse_rowTooLarge_iff, parse_invalid_iff,
    fun a h => toList_text_of_names (parse_ok_iff_names.mp h), fun a => parse_text_iff a⟩

/-- The last cell that an address can name. -/
example : parse " $xfd0001048576 " = .ok ⟨⟨1048575, 16383⟩, true, false⟩ := by rfl

end Address

end Spreadsheet
