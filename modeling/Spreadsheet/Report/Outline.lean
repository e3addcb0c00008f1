import Spreadsheet.Formula.Tree
import Spreadsheet.Number.Style
import Spreadsheet.Text.Quoted

/-!
# Outlines of formulas

An outline shows every node of a tree by its name, with its parts below it and
indented by four spaces.

- `Outline`: a word, or a name with parts in brackets.
- `Outline.render`: the lines of an outline.
- `Tree.outline`: the outline of a formula.
-/

namespace Spreadsheet

/-- A word, or parts in brackets after a name. -/
inductive Outline where
  /-- A word on its own. -/
  | word (text : String)
  /-- A part in parentheses. -/
  | wrapped (name : String) (part : Outline)
  /-- Named parts in braces. -/
  | named (name : String) (parts : List (String × Outline))
  /-- Parts in square brackets. -/
  | listed (parts : List Outline)

namespace Outline

/-- The start of a line at a level of indentation. -/
def newLine (level : Nat) : String := .ofList ('\n' :: List.replicate (4 * level) ' ')

mutual

/-- The text of an outline at a level of indentation. -/
def renderAt (level : Nat) : Outline → String
  | word text => text
  | wrapped name part =>
    name ++ "(" ++ newLine (level + 1) ++ part.renderAt
      (level + 1) ++ "," ++ newLine level ++ ")"
  | named name parts =>
    name ++ " \x7b" ++ renderNamed (level + 1) parts ++ newLine level ++ "\x7d"
  | listed [] => "[]"
  | listed parts => "[" ++ renderListed (level + 1) parts ++ newLine level ++ "]"

/-- The lines of named parts. -/
def renderNamed (level : Nat) : List (String × Outline) → String
  | [] => ""
  | (name, part) :: parts =>
    newLine level ++ name ++ ": " ++ part.renderAt level ++ "," ++ renderNamed level parts

/-- The lines of parts without names. -/
def renderListed (level : Nat) : List Outline → String
  | [] => ""
  | part :: parts => newLine level ++ part.renderAt level ++ "," ++ renderListed level parts

end

/-- The text of an outline. -/
def render (o : Outline) : String := o.renderAt 0

end Outline

namespace Formula

mutual

/-- The outline of a formula. -/
def Tree.outline : Tree → Outline
  | .number x => .wrapped "Number" (.word (NumberStyle.tree.render x))
  | .text s => .wrapped "String" (.word (Text.Quoted.inTree s))
  | .reference address => .wrapped "Reference" (.word (Text.Quoted.inTree address))
  | .operation op left right =>
    .named "BasicOperation" [("operator", .word op.name), ("left", left.outline),
      ("right", right.outline)]
  | .call function arguments =>
    .named "Function" [("name", .word (Text.Quoted.inTree function)),
      ("arguments", .listed (Tree.outlines arguments))]

/-- The outlines of several formulas. -/
def Tree.outlines : List Tree → List Outline
  | [] => []
  | t :: ts => t.outline :: Tree.outlines ts

end

end Formula

end Spreadsheet
