/-!
# Tokens

- `Token`: a piece of a formula, with its kind and its text.
- `Token.endMark`: the token at the end of every formula.
- `Token.cited`, `Token.shown`: a token in the wording of a fault, and on a line of its own.
-/

namespace Spreadsheet

namespace Formula

/-- What kind of piece a token is. -/
inductive TokenKind where
  /-- A reference to a cell. -/
  | reference
  /-- An operator, a parenthesis or a comma. -/
  | operator
  /-- The name of a function. -/
  | function
  /-- The text of a number. -/
  | number
  /-- A quoted text, without its quotes. -/
  | characters
  /-- The formula as a whole; without text it marks the end. -/
  | formula
deriving DecidableEq, Repr

/-- The name of a kind. -/
def TokenKind.name : TokenKind → String
  | reference => "Ref"
  | operator => "Operator"
  | function => "Function"
  | number => "Number"
  | characters => "Characters"
  | formula => "Formula"

/-- The name of a kind in a document. -/
def TokenKind.documentName : TokenKind → String
  | reference => "REF"
  | operator => "OPERATOR"
  | function => "FUNCTION"
  | number => "NUMBER"
  | characters => "CHARACTERS"
  | formula => "FORMULA"

/-- A piece of a formula. -/
structure Token where
  kind : TokenKind
  text : String
deriving DecidableEq, Repr

namespace Token

/-- The token at the end of every formula. -/
def endMark : Token := ⟨.formula, ""⟩

/-- Is this the token at the end? -/
def isEnd (t : Token) : Bool := t == endMark

/-- A token as faults quote it. The mark at the end has no text of its own. -/
def cited (t : Token) : String := if t.isEnd then "EOF" else t.text

/-- Is this the operator, parenthesis or comma with the given spelling? -/
def isSymbol (t : Token) (symbol : String) : Bool := t == ⟨.operator, symbol⟩

/-- A token on a line of its own. -/
def shown (t : Token) : String :=
  if t.isEnd then t.kind.name ++ " EOF" else t.kind.name ++ " " ++ t.text

@[simp] theorem isEnd_endMark : endMark.isEnd = true := by simp [isEnd]

theorem isEnd_of_kind {t : Token} (h : t.kind ≠ .formula) : t.isEnd = false := by
  refine beq_eq_false_iff_ne.mpr ?_
  rintro rfl
  exact h rfl

theorem isEnd_of_function {t : Token} (h : t.kind = .function) : t.isEnd = false := by
  refine isEnd_of_kind ?_
  rw [h]
  decide

theorem isEnd_symbol (symbol : String) : isEnd ⟨.operator, symbol⟩ = false :=
  isEnd_of_kind nofun

theorem cited_symbol (symbol : String) : cited ⟨.operator, symbol⟩ = symbol := by
  rw [cited, isEnd_symbol, if_neg Bool.false_ne_true]

end Token

end Formula

end Spreadsheet
