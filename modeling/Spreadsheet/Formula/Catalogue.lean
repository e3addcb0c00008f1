import Spreadsheet.Formula.Fault
import Spreadsheet.Text.Case
import Spreadsheet.Value

/-!
# Functions

- `Function`: a named function on lists of values, with the numbers of arguments that it takes.
- `Function.call`: refuses a wrong number of arguments, and else runs the function.
- `Catalogue`: the functions that formulas may call, by name and without regard to case.
- `sum`, `average`, `Catalogue.builtIn`: the functions that every formula may call.
- `find?_register`: a registered function is found under its own name and hides
  the one before it.
-/

namespace Spreadsheet

namespace Formula

/-- What a function makes of its arguments. -/
abbrev Body := List Value → Except Fault Value

/-- A function that formulas may call. -/
structure Function where
  name : String
  /-- The least number of arguments. -/
  minimum : Nat
  /-- The greatest number of arguments, if there is one. -/
  maximum : Option Nat
  body : Body

namespace Function

/-- Does the function take so many arguments? -/
def takes (f : Function) (count : Nat) : Bool :=
  f.minimum ≤ count && f.maximum.all (count ≤ ·)

/-- Calls a function. -/
def call (f : Function) (arguments : List Value) : Except Fault Value :=
  if f.takes arguments.length then f.body arguments
  else .error (.invalidArgument (Text.toLower f.name))

end Function

/-! ## Sums and averages -/

/-- An argument as a number: a text is read between its blank ends, and nothing
counts as zero. -/
def readArgument (function : String) : Value → Except Fault Float
  | .empty => .ok 0
  | .number x => .ok x
  | .text s =>
    match (Numeral.ofChars? (Text.trim s.toList)).map Numeral.toFloat with
    | some x => .ok x
    | none => .error (.invalidArgument function)

/-- The sum of the arguments, added from the left. -/
def total (function : String) (arguments : List Value) : Except Fault Float :=
  arguments.foldlM (fun sum v => (readArgument function v).map (sum + ·)) 0

/-- The sum of any number of values. -/
def sum : Body := fun arguments => (total "sum" arguments).map .number

/-- The average of at least one value. -/
def average : Body := fun arguments => do
  let x ← total "average" arguments
  if arguments.isEmpty then throw .divisionByZero
  return .number (x / Float.ofNat arguments.length)

/-! ## Catalogues -/

/-- Functions by name. No two have names that differ only in case. -/
structure Catalogue where
  functions : List Function

namespace Catalogue

/-- The function with a name, in whatever case. -/
def find? (catalogue : Catalogue) (name : String) : Option Function :=
  catalogue.functions.find? fun f => Text.toUpper f.name == Text.toUpper name

/-- Adds a function, in place of any other whose name differs only in case. -/
def register (catalogue : Catalogue) (f : Function) : Catalogue :=
  ⟨f :: catalogue.functions.filter fun g => Text.toUpper g.name != Text.toUpper f.name⟩

/-- The catalogue without functions. -/
def empty : Catalogue := ⟨[]⟩

/-- The functions that every formula may call. -/
def builtIn : Catalogue :=
  (empty.register ⟨"SUM", 0, none, sum⟩).register ⟨"AVERAGE", 0, none, average⟩

theorem find?_register (catalogue : Catalogue) (f : Function) (name : String) :
    (catalogue.register f).find? name =
      if Text.toUpper f.name = Text.toUpper name then some f else catalogue.find? name := by
  by_cases h : Text.toUpper f.name = Text.toUpper name
  · simp [find?, register, h]
  · simp only [find?, register, h, if_false, List.find?_cons, beq_eq_false_iff_ne.mpr h,
      List.find?_filter]
    congr 1
    funext g
    by_cases hg : Text.toUpper g.name = Text.toUpper name
    · simp [hg, Ne.symm h]
    · simp [hg]

end Catalogue

end Formula

end Spreadsheet
