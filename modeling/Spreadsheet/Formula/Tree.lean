import Spreadsheet.Formula.Operator

/-!
# Trees

A formula as a tree. Parentheses leave no node; references, texts and names of functions are
kept as they were written.

- `Tree`: the tree of a formula.
- `Tree.height`: a leaf and a call without arguments have height 1, any other node is one
  higher than its highest child.
- `Tree.references`: the references from left to right, repeats included.
-/

namespace Spreadsheet

namespace Formula

/-- The tree of a formula. -/
inductive Tree where
  | number (x : Float)
  | text (s : String)
  | reference (address : String)
  | operation (op : Operator) (left right : Tree)
  | call (function : String) (arguments : List Tree)
deriving Inhabited

namespace Tree

mutual

/-- The height of a tree. -/
def height : Tree → Nat
  | number _ | text _ | reference _ => 1
  | operation _ left right => max left.height right.height + 1
  | call _ arguments => heights arguments + 1

/-- The height of the highest of several trees. -/
def heights : List Tree → Nat
  | [] => 0
  | t :: ts => max t.height (heights ts)

end

mutual

/-- The references in a tree, from left to right. -/
def references : Tree → List String
  | number _ | text _ => []
  | reference address => [address]
  | operation _ left right => left.references ++ right.references
  | call _ arguments => referencesOfAll arguments

/-- The references in several trees, from left to right. -/
def referencesOfAll : List Tree → List String
  | [] => []
  | t :: ts => t.references ++ referencesOfAll ts

end

theorem height_pos (t : Tree) : 1 ≤ t.height := by
  cases t with
  | number | text | reference => exact Nat.le_refl 1
  | operation | call => exact Nat.le_add_left 1 _

end Tree

end Formula

end Spreadsheet
