/-!
# Blank characters

Cell inputs, addresses, formulas and scripts all ignore blank characters at their ends, and
formulas also between their tokens.

- `isBlank`: the characters with the Unicode property `White_Space`.
- `trimStart`, `trimEnd`, `trim`: a text without its blank ends.
- `trimStart_append_of_blank`, `trimStart_cons_of_not_blank`: blank characters in front are
  dropped, and nothing else is.
-/

namespace Spreadsheet

namespace Text

/-- A blank character: one with the Unicode property `White_Space`. Zero-width and control
characters outside that property (U+200B, U+FEFF, U+001C) are not blank. -/
def isBlank (c : Char) : Bool :=
  let n := c.toNat
  (9 ≤ n && n ≤ 13) || n == 0x20 || n == 0x85 || n == 0xA0 || n == 0x1680 ||
    (0x2000 ≤ n && n ≤ 0x200A) || n == 0x2028 || n == 0x2029 || n == 0x202F || n == 0x205F ||
    n == 0x3000

/-- The text from its first character that is not blank. -/
def trimStart (cs : List Char) : List Char := cs.dropWhile isBlank

/-- The text up to its last character that is not blank. -/
def trimEnd (cs : List Char) : List Char := (cs.reverse.dropWhile isBlank).reverse

/-- The text without the blank characters at either end. -/
def trim (cs : List Char) : List Char := trimEnd (trimStart cs)

/-- `trim` on strings. -/
def trimmed (s : String) : String := .ofList (trim s.toList)

/-! ## What trimming does -/

@[simp] theorem trimStart_nil : trimStart [] = [] := rfl

theorem trimStart_cons_of_not_blank {c : Char} {cs : List Char} (h : isBlank c = false) :
    trimStart (c :: cs) = c :: cs := by
  simp [trimStart, h]

theorem trimStart_append_of_blank {ws cs : List Char} (h : ∀ c ∈ ws, isBlank c = true) :
    trimStart (ws ++ cs) = trimStart cs := by
  simp [trimStart, List.dropWhile_append_of_pos h]

end Text

end Spreadsheet
