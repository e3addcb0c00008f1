import Spreadsheet.Number.Shortest

/-!
# Number styles

The digits of a number are chosen by `Binary.shortest`; a style says how they are laid
out. There are three: the grid shows numbers one way, the outline of a formula another,
and JSON documents a third.

- `NumberStyle`, `NumberStyle.render`: the decisions of a style, and the text they give.
- `NumberStyle.grid`, `NumberStyle.tree`, `NumberStyle.document`: the three styles.
-/

namespace Spreadsheet

/-- How a number is laid out. -/
structure NumberStyle where
  /-- The powers of ten, from the first up to but not including the second, whose leading digit
  is written without an exponent; all of them if there are none. -/
  positional : Option (Int × Int)
  /-- Is an integer written with `.0`? -/
  pointZero : Bool
  /-- Does a positive exponent have a sign? -/
  exponentSign : Bool
  /-- Does the zero below zero have a sign? -/
  signedZero : Bool
  /-- Which of two equally near digits is written. -/
  tie : Tie

namespace NumberStyle

/-- Digits with the point where it belongs. -/
def layPositional (style : NumberStyle) (d : Decimal) : List Char :=
  let ds := Nat.toDigits 10 d.digits
  if 0 ≤ d.exponent then
    ds ++ List.replicate d.exponent.toNat '0' ++ if style.pointZero then ['.', '0'] else []
  else
    let places := (-d.exponent).toNat
    if places < ds.length then
      ds.take (ds.length - places) ++ '.' :: ds.drop (ds.length - places)
    else
      '0' :: '.' :: List.replicate (places - ds.length) '0' ++ ds

/-- One digit, a point if more follow, and the power of ten of the leading digit. -/
def layExponent (style : NumberStyle) (ds : List Char) (leading : Int) : List Char :=
  let fraction := match ds.drop 1 with
    | [] => []
    | more => '.' :: more
  let sign := if leading < 0 then ['-'] else if style.exponentSign then ['+'] else []
  ds.take 1 ++ fraction ++ 'e' :: sign ++ Nat.toDigits 10 leading.natAbs

/-- A decimal in the given style. -/
def layOut (style : NumberStyle) (d : Decimal) : List Char :=
  let ds := Nat.toDigits 10 d.digits
  let leading := d.exponent + ds.length - 1
  match style.positional with
  | none => style.layPositional d
  | some (first, past) =>
    if d.digits = 0 ∨ (first ≤ leading ∧ leading < past) then style.layPositional d
    else style.layExponent ds leading

/-- The text of a number. -/
def render (style : NumberStyle) (x : Float) : String :=
  if x.isNaN then "NaN"
  else
    let negative := 0x8000000000000000 ≤ x.toBits
    let sign := if negative && (style.signedZero || x != 0) then ['-'] else []
    if x.isInf then .ofList (sign ++ ['i', 'n', 'f'])
    else .ofList (sign ++ style.layOut ((Binary.ofBits x.toBits).shortest style.tie))

/-- Numbers in the grid: no exponent at any size, and no sign on zero. -/
def grid : NumberStyle where
  positional := none
  pointZero := false
  exponentSign := false
  signedZero := false
  tie := .up

/-- Numbers in the outline of a formula: an exponent below `10 ^ (-4)` and from `10 ^ 16`. -/
def tree : NumberStyle where
  positional := some (-4, 16)
  pointZero := true
  exponentSign := false
  signedZero := true
  tie := .up

/-- Finite numbers in a JSON document: an exponent below `10 ^ (-5)` and from `10 ^ 16`. -/
def document : NumberStyle where
  positional := some (-5, 16)
  pointZero := true
  exponentSign := true
  signedZero := true
  tie := .even

end NumberStyle

end Spreadsheet
