/-!
# Column labels

Columns are labelled `A`, `B`, …, `Z`, `AA`, `AB`, …: base 26 with the digits 1 to 26 and no
zero, so that every column has one label and every label names one column.

- `Column.count`: how many columns can be named.
- `Column.label`: the label of a column, counted from 0.
- `Column.number`: the value of a label in base 26, counted from 1.
- `label_of_lt`, `label_of_le`: one letter, or the label of what is in front and one letter.
- `number_append_single`: reading a label is one step for each letter.
- `number_label`: a label that was written is read as its column.
-/

namespace Spreadsheet

namespace Column

/-- The number of columns that an address can name: `A` to `XFD`. -/
def count : Nat := 16384

/-- The digit that a letter stands for, without regard to case: `A` is 1 and `Z` is 26. -/
def digit (c : Char) : Nat := c.toUpper.toNat - 'A'.toNat + 1

/-- The letter of a digit, counted from 0. -/
def letter (n : Nat) : Char := Char.ofNat ('A'.toNat + n % 26)

/-- The label of a column, counted from 0. -/
def label (n : Nat) : List Char :=
  if n < 26 then [letter n] else label (n / 26 - 1) ++ [letter n]
termination_by n
decreasing_by omega

/-- The value of a label, counted from 1. -/
def number (cs : List Char) : Nat := cs.foldl (fun n c => 26 * n + digit c) 0

/-! ## One letter at a time -/

theorem label_of_lt {n : Nat} (h : n < 26) : label n = [letter n] := by
  rw [label, if_pos h]

theorem label_of_le {n : Nat} (h : 26 ≤ n) : label n = label (n / 26 - 1) ++ [letter n] := by
  rw [label, if_neg (by omega)]

@[simp] theorem number_nil : number [] = 0 := rfl

theorem number_append_single (cs : List Char) (c : Char) :
    number (cs ++ [c]) = 26 * number cs + digit c := by
  simp [number]

/-! ## A label names its column -/

theorem digit_letter (n : Nat) : digit (letter n) = n % 26 + 1 := by
  -- There are only 26 remainders to look at.
  have h : ∀ k : Fin 26, digit (Char.ofNat ('A'.toNat + k)) = k + 1 := by decide
  exact h ⟨n % 26, Nat.mod_lt n (by decide)⟩

theorem number_label (n : Nat) : number (label n) = n + 1 := by
  by_cases h : n < 26
  · simp [label_of_lt h, number, digit_letter, Nat.mod_eq_of_lt h]
  · -- The label in front names the column `n / 26 - 1`.
    rw [label_of_le (by omega), number_append_single, number_label (n / 26 - 1), digit_letter]
    omega
termination_by n

end Column

end Spreadsheet
