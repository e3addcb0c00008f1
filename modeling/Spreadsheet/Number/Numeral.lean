/-!
# Numerals

The text of a number, as cells, formulas and function arguments are read: an optional sign, then
one of the words `inf`, `infinity` and `nan` in any case, or digits with at most one point among
them and an optional exponent.

- `Numeral`: what such a text says, before any rounding.
- `Numeral.ofChars?`: the grammar. No blank character and no digit separator is
  part of a numeral.
- `Numeral.toFloat`: the nearest number, an exact half going to the even neighbour; what
  is too large is infinite.
- `readNumber?`: both together, on strings.
-/

namespace Spreadsheet

/-- What the text of a number says, before any rounding. -/
inductive Numeral where
  /-- No number at all. -/
  | undefined
  /-- More than every number, or less. -/
  | infinite (negative : Bool)
  /-- `digits * 10 ^ exponent`. -/
  | decimal (negative : Bool) (digits : Nat) (exponent : Int)
deriving Repr, DecidableEq

namespace Numeral

/-! ## Digits -/

/-- The value of one decimal digit. -/
def digitValue (c : Char) : Nat := c.toNat - '0'.toNat

/-- The value of a run of decimal digits. -/
def digitsValue (cs : List Char) : Nat := cs.foldl (fun n c => 10 * n + digitValue c) 0

@[simp] theorem digitsValue_nil : digitsValue [] = 0 := rfl

theorem digitsValue_concat (cs : List Char) (c : Char) :
    digitsValue (cs ++ [c]) = 10 * digitsValue cs + digitValue c := by
  simp [digitsValue]

/-- The value of a nonempty run of decimal digits, and nothing else. -/
def natural? (cs : List Char) : Option Nat :=
  if !cs.isEmpty && cs.all Char.isDigit then some (digitsValue cs) else none

/-! ## The grammar -/

/-- The exponent at the end of a numeral: nothing, or `e`, an optional sign and digits. -/
def exponent? : List Char → Option Int
  | [] => some 0
  | c :: rest =>
    if c = 'e' ∨ c = 'E' then
      match rest with
      | '-' :: ds => (natural? ds).map fun n => -(n : Int)
      | '+' :: ds => (natural? ds).map fun n => (n : Int)
      | ds => (natural? ds).map fun n => (n : Int)
    else none

/-- The longest run of digits with at most one point among them: the digits before the point,
those after it, and the rest of the text. -/
def spanDecimal (cs : List Char) : List Char × List Char × List Char :=
  match cs.dropWhile Char.isDigit with
  | '.' :: rest =>
    (cs.takeWhile Char.isDigit, rest.takeWhile Char.isDigit, rest.dropWhile Char.isDigit)
  | rest => (cs.takeWhile Char.isDigit, [], rest)

/-- Digits with at most one point and at least one digit, then an exponent. -/
def decimal? (negative : Bool) (cs : List Char) : Option Numeral :=
  match spanDecimal cs with
  | (whole, fraction, rest) =>
    if whole.isEmpty && fraction.isEmpty then none
    else (exponent? rest).map fun e =>
      .decimal negative (digitsValue (whole ++ fraction)) (e - fraction.length)

/-- A numeral after its sign. -/
def unsigned? (negative : Bool) (cs : List Char) : Option Numeral :=
  let word := cs.map Char.toLower
  if word = ['i', 'n', 'f'] ∨ word = ['i', 'n', 'f', 'i', 'n', 'i', 't', 'y'] then
    some (.infinite negative)
  else if word = ['n', 'a', 'n'] then some .undefined
  else decimal? negative cs

/-- Reads a whole text as a numeral. -/
def ofChars? : List Char → Option Numeral
  | '-' :: rest => unsigned? true rest
  | '+' :: rest => unsigned? false rest
  | rest => unsigned? false rest

/-! ## The number meant -/

/-- The number nearest to `digits * 10 ^ exponent`. What reaches `10 ^ 400` is infinite and what
stays below `10 ^ (-400)` is zero, so powers of ten beyond these are never computed. -/
def nearest (digits : Nat) (exponent : Int) : Float :=
  if digits = 0 then 0
  else if 400 ≤ exponent then 1 / 0
  else if exponent + digits.log2 + 1 ≤ -400 then 0
  else Float.ofScientific digits (exponent < 0) exponent.natAbs

/-- The number that a numeral means. -/
def toFloat : Numeral → Float
  | .undefined => 0 / 0
  | .infinite negative => if negative then -(1 / 0) else 1 / 0
  | .decimal negative digits exponent =>
    if negative then -(nearest digits exponent) else nearest digits exponent

end Numeral

/-- Reads a whole text as a number. -/
def readNumber? (s : String) : Option Float := (Numeral.ofChars? s.toList).map Numeral.toFloat

end Spreadsheet
