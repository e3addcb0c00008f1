import Spreadsheet.Text.HiddenTable

/-!
# Quoted text

Two ways to write a text between double quotes.

- `inTree`: as the outline of a formula shows it. Characters that leave no mark of their own are
  written by their code point, so that every text can be told from every other.
- `inDocument`: as a JSON document holds it. Only what the format demands is escaped.
-/

namespace Spreadsheet

namespace Text

/-- Does the character leave no mark of its own on a line? -/
def isHidden (c : Char) : Bool :=
  hiddenRanges.any fun r => r.1 ≤ c.toNat && c.toNat ≤ r.2

/-- A code point in lower-case hexadecimal digits. -/
def hexDigits (n : Nat) : List Char := Nat.toDigits 16 n

namespace Quoted

/-- One character inside the quotes of an outline. -/
def escapeInTree (c : Char) : List Char :=
  if c = '\x00' then ['\\', '0']
  else if c = '\t' then ['\\', 't']
  else if c = '\n' then ['\\', 'n']
  else if c = '\r' then ['\\', 'r']
  else if c = '"' then ['\\', '"']
  else if c = '\\' then ['\\', '\\']
  else if isHidden c then ['\\', 'u', '\x7b'] ++ hexDigits c.toNat ++ ['\x7d']
  else [c]

/-- One character inside the quotes of a JSON document. -/
def escapeInDocument (c : Char) : List Char :=
  if c = '"' then ['\\', '"']
  else if c = '\\' then ['\\', '\\']
  else if c = '\x08' then ['\\', 'b']
  else if c = '\x0c' then ['\\', 'f']
  else if c = '\n' then ['\\', 'n']
  else if c = '\r' then ['\\', 'r']
  else if c = '\t' then ['\\', 't']
  else if c.toNat < 0x20 then ['\\', 'u'] ++ (hexDigits c.toNat).leftpad 4 '0'
  else [c]

/-- A text between double quotes. -/
def enclose (escape : Char → List Char) (s : String) : String :=
  .ofList ('"' :: s.toList.flatMap escape ++ ['"'])

/-- A text as the outline of a formula shows it. -/
def inTree (s : String) : String := enclose escapeInTree s

/-- A text as a JSON document holds it. -/
def inDocument (s : String) : String := enclose escapeInDocument s

end Quoted

end Text

end Spreadsheet
