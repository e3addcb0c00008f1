import Spreadsheet.Formula.Token
import Spreadsheet.Formula.Tree
import Spreadsheet.Number.Style
import Spreadsheet.Sheet.Basic
import Spreadsheet.Text.Quoted

/-!
# JSON documents

- `Document`: a JSON value; the members of an object keep their order.
- `Document.render`: its text, one element or member a line, indented by two spaces a level.
- `Token.document`, `Tree.document`, `Sheet.document`: tokens, trees and sheets as documents.
-/

namespace Spreadsheet

/-- A JSON value. -/
inductive Document where
  | null
  | number (x : Float)
  | string (s : String)
  | array (elements : List Document)
  | object (members : List (String × Document))

namespace Document

/-- The start of a line at a level of indentation. -/
def newLine (level : Nat) : String := .ofList ('\n' :: List.replicate (2 * level) ' ')

/-- A number; what is infinite or undefined is `null`. -/
def renderNumber (x : Float) : String :=
  if x.isFinite then NumberStyle.document.render x else "null"

/-- Brackets around parts, each of which is on a line of its own. -/
def bracket (left right : String) (level : Nat) (parts : List String) : String :=
  if parts.isEmpty then left ++ right
  else
    left ++ newLine (level + 1) ++ String.intercalate ("," ++ newLine (level + 1)) parts ++
      newLine level ++ right

mutual

/-- The text of a document at a level of indentation. -/
def renderAt (level : Nat) : Document → String
  | null => "null"
  | number x => renderNumber x
  | string s => Text.Quoted.inDocument s
  | array elements => bracket "[" "]" level (renderElements (level + 1) elements)
  | object members => bracket "\x7b" "\x7d" level (renderMembers (level + 1) members)

/-- The texts of the elements of an array. -/
def renderElements (level : Nat) : List Document → List String
  | [] => []
  | d :: ds => d.renderAt level :: renderElements level ds

/-- The texts of the members of an object. -/
def renderMembers (level : Nat) : List (String × Document) → List String
  | [] => []
  | (key, d) :: ds =>
    (Text.Quoted.inDocument key ++ ": " ++ d.renderAt level) :: renderMembers level ds

end

/-- The text of a document. -/
def render (d : Document) : String := d.renderAt 0

end Document

namespace Formula

/-- A token as a document. -/
def Token.document (t : Token) : Document :=
  .object [("kind", .string t.kind.documentName), ("value", .string t.text)]

mutual

/-- A tree as a document. -/
def Tree.document : Tree → Document
  | .number x => .object [("Number", .number x)]
  | .text s => .object [("String", .string s)]
  | .reference address => .object [("Reference", .string address)]
  | .operation op left right =>
    .object [("BasicOperation", .object [("operator", .string op.name),
      ("left", left.document), ("right", right.document)])]
  | .call function arguments =>
    .object [("Function", .object [("name", .string function),
      ("arguments", .array (Tree.documents arguments))])]

/-- Trees as documents. -/
def Tree.documents : List Tree → List Document
  | [] => []
  | t :: ts => t.document :: Tree.documents ts

end

end Formula

/-- The cells of a sheet as a document: the address, the input and what is
shown, in row-major order. -/
def Sheet.document (s : Sheet) : Document :=
  .array (s.entries.map fun (p, c) =>
    .object [("address", .string (Address.ofPosition p).text), ("input", .string c.input),
      ("display", .string c.display)])

end Spreadsheet
