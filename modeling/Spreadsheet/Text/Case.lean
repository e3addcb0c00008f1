import Spreadsheet.Text.CaseTable

/-!
# Upper and lower case

Names of functions are compared without regard to case. The mappings are the full ones: a
character may become several (`ß` becomes `SS`), and a capital sigma at the end of a word has
a lower case of its own.

- `upper`, `lower`: the mapping of one character.
- `toUpper`, `toLower`: the mapping of a text.
-/

namespace Spreadsheet

namespace Text

/-- The image of a character outside ASCII under a case mapping given by its tables. -/
def mapCase (expansions : List (Nat × List Nat)) (runs : List CaseRun) (c : Char) : List Char :=
  match expansions.lookup c.toNat with
  | some images => images.map Char.ofNat
  | none => [Char.ofNat ((runs.findSome? (·.image? c.toNat)).getD c.toNat)]

/-- The upper case of one character. -/
def upper (c : Char) : List Char :=
  if c.toNat < 0x80 then [c.toUpper] else mapCase upperExpansions upperRuns c

/-- The lower case of one character that is not a capital sigma in a text. -/
def lower (c : Char) : List Char :=
  if c.toNat < 0x80 then [c.toLower] else mapCase lowerExpansions lowerRuns c

/-- Does a character lie in one of the ranges? -/
def inRanges (ranges : List (Nat × Nat)) (c : Char) : Bool :=
  ranges.any fun r => r.1 ≤ c.toNat && c.toNat ≤ r.2

/-- Is the first character that case does not ignore a cased one? -/
def meetsCased (cs : List Char) : Bool :=
  match cs.dropWhile (inRanges caseIgnorableRanges) with
  | [] => false
  | c :: _ => inRanges casedRanges c

/-- The lower case of a capital sigma, given the text before it, last character first, and the
text after it: `ς` at the end of a word and `σ` elsewhere. -/
def lowerSigma (before after : List Char) : Char :=
  if meetsCased before && !meetsCased after then 'ς' else 'σ'

/-- The lower case of a text that follows `before`, given last character first. -/
def lowerAfter (before : List Char) : List Char → List Char
  | [] => []
  | c :: rest =>
    (if c = 'Σ' then [lowerSigma before rest] else lower c) ++ lowerAfter (c :: before) rest

/-- The upper case of a text. -/
def toUpper (s : String) : String := .ofList (s.toList.flatMap upper)

/-- The lower case of a text. -/
def toLower (s : String) : String := .ofList (lowerAfter [] s.toList)

end Text

end Spreadsheet
