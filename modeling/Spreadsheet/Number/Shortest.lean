/-!
# Shortest decimals

A number is shown by the fewest decimal digits that read back as that number, and of several
such decimals by the nearest one. All comparisons are exact, over the natural numbers.

- `Binary`: a finite number as `m * 2 ^ q`; `Binary.readsBack` says which
  decimals are read as it.
- `Binary.shortest`: the decimal shown. On each grid of multiples of a power of ten only the two
  neighbours of the number matter, and the first grid on which one of them reads back wins.
-/

namespace Spreadsheet

/-- The decimal `digits * 10 ^ exponent`. -/
structure Decimal where
  digits : Nat
  exponent : Int
deriving Repr, DecidableEq

/-- What to do when two neighbours are equally near. -/
inductive Tie where
  /-- Take the larger neighbour. -/
  | up
  /-- Take the neighbour with the even last digit. -/
  | even
deriving Repr, DecidableEq

/-- The finite number `m * 2 ^ q`, sign apart. -/
structure Binary where
  m : Nat
  q : Int
  /-- Is the next smaller number only half as far away as the next larger one? -/
  narrowBelow : Bool
deriving Repr, DecidableEq

namespace Binary

/-- The finite number with the given bits, sign apart. -/
def ofBits (bits : UInt64) : Binary :=
  let e := ((bits >>> 52) &&& 0x7FF).toNat
  let f := (bits &&& 0xFFFFFFFFFFFFF).toNat
  if e = 0 then ⟨f, -1074, false⟩ else ⟨Nat.pow 2 52 + f, (e : Int) - 1075, f = 0 && 1 < e⟩

/-- Compares `a * 10 ^ i` with `n * 2 ^ j`. -/
def compareScaled (a : Nat) (i : Int) (n : Nat) (j : Int) : Ordering :=
  compare (a * Nat.pow 10 i.toNat * Nat.pow 2 (-j).toNat)
    (n * Nat.pow 2 j.toNat * Nat.pow 10 (-i).toNat)

/-- Is the decimal read as this number? The decimals that are lie between the halfway points to
the two neighbouring numbers; a halfway point itself goes to the number with the even `m`. -/
def readsBack (x : Binary) (d : Decimal) : Bool :=
  let below := if x.narrowBelow then 4 * x.m - 1 else 4 * x.m - 2
  let above := 4 * x.m + 2
  let ends := x.m % 2 = 0
  let lower := compareScaled d.digits d.exponent below (x.q - 2)
  let upper := compareScaled d.digits d.exponent above (x.q - 2)
  (lower = .gt || (ends && lower = .eq)) && (upper = .lt || (ends && upper = .eq))

/-- The number of decimal digits of a natural number. -/
def digitCount (n : Nat) : Nat := (Nat.toDigits 10 n).length

/-- The least `k` for which the number, if it is not zero, stays below `10 ^ k`. -/
def scale (x : Binary) : Int :=
  let num := x.m * Nat.pow 2 x.q.toNat
  let den := Nat.pow 2 (-x.q).toNat
  if den ≤ num then digitCount (num / den) else 1 - (digitCount (den / num) : Int)

/-- The largest multiple of `10 ^ g` that is not above the number, as a count of steps. -/
def floorOn (x : Binary) (g : Int) : Nat :=
  (x.m * Nat.pow 2 x.q.toNat * Nat.pow 10 (-g).toNat) /
    (Nat.pow 2 (-x.q).toNat * Nat.pow 10 g.toNat)

/-- Of the steps `n` and `n + 1` on the grid of `10 ^ g`, which is nearer to the number? -/
def nearerOn (tie : Tie) (x : Binary) (g : Int) (n : Nat) : Nat :=
  match compareScaled (2 * n + 1) g (2 * x.m) x.q, tie with
  | .lt, _ => n + 1
  | .gt, _ => n
  | .eq, .up => n + 1
  | .eq, .even => if n % 2 = 0 then n else n + 1

/-- The decimal on the grid of `10 ^ g` that reads back, the nearer one if both
neighbours do. -/
def onGrid? (tie : Tie) (x : Binary) (g : Int) : Option Decimal :=
  let n := x.floorOn g
  match x.readsBack ⟨n, g⟩, x.readsBack ⟨n + 1, g⟩ with
  | true, true => some ⟨x.nearerOn tie g n, g⟩
  | true, false => some ⟨n, g⟩
  | false, true => some ⟨n + 1, g⟩
  | false, false => none

/-- The number itself, as a decimal. -/
def exact (x : Binary) : Decimal :=
  if 0 ≤ x.q then ⟨x.m * Nat.pow 2 x.q.toNat, 0⟩ else ⟨x.m * Nat.pow 5 (-x.q).toNat, x.q⟩

end Binary

/-- The same decimal without zeros at its end. -/
def Decimal.stripZeros (d : Decimal) : Decimal :=
  if 0 < d.digits ∧ d.digits % 10 = 0 then stripZeros ⟨d.digits / 10, d.exponent + 1⟩ else d
termination_by d.digits
decreasing_by grind

/-- The shortest decimal that reads back as the number: seventeen digits always do. -/
def Binary.shortest (tie : Tie) (x : Binary) : Decimal :=
  if x.m = 0 then ⟨0, 0⟩
  else
    let found := (List.range 17).findSome? fun n => x.onGrid? tie (x.scale - (n + 1 : Nat))
    (found.getD x.exact).stripZeros

end Spreadsheet
