import Spreadsheet.Formula.Fault
import Spreadsheet.Formula.Token
import Spreadsheet.Formula.Tree
import Spreadsheet.Number.Numeral

/-!
# Reading trees from tokens

The grammar of formulas, in which both repetitions group to the left:

- an expression is a term, then any number of looser operators, each with a term after it;
- a term is a factor, then any number of tighter operators, each with a factor after it;
- a factor is a number, a reference, a quoted text, an expression in parentheses, or the
  name of a function and its arguments in parentheses, separated by commas, one more comma
  being allowed at the end.

Neither the height of a tree nor the number of parentheses open at a time may pass `depthLimit`.

- `Cursor`: the tokens still to read, and how many parentheses are open.
- `Parsed`: what was read, its height, and where reading goes on.
- `Cursor.expression`, `Cursor.term`, `Cursor.factor`, `Cursor.call`: one function for each rule
  of the grammar; each reads at least one token.
- `parse`: reads all tokens up to the mark at their end.
-/

namespace Spreadsheet

namespace Formula

/-- Where reading stands. -/
structure Cursor where
  /-- The tokens still to read. -/
  rest : List Token
  /-- The number of open parentheses. -/
  opened : Nat

/-- A tree that was read from the last `n` tokens. -/
structure Parsed (n : Nat) where
  tree : Tree
  height : Nat
  /-- Where reading goes on. -/
  next : Cursor
  shorter : next.rest.length < n

/-- The trees of an argument list that were read from the last `n` tokens. -/
structure ParsedList (n : Nat) where
  trees : List Tree
  /-- The height of the highest tree. -/
  height : Nat
  /-- Where reading goes on. -/
  next : Cursor
  shorter : next.rest.length ≤ n

/-- The height of a node above children of the given height. -/
def heightAbove (children : Nat) : Except Fault Nat :=
  if children + 1 ≤ depthLimit then .ok (children + 1) else .error .tooDeep

namespace Cursor

/-! ## Steps -/

/-- Goes past a token that opens a parenthesis; `rest` follows it. -/
def enter (c : Cursor) (rest : List Token) : Except Fault { d : Cursor // d.rest = rest } :=
  if c.opened + 1 ≤ depthLimit then .ok ⟨⟨rest, c.opened + 1⟩, rfl⟩ else .error .tooDeep

/-- Goes past a token that closes a parenthesis. -/
def leave? (c : Cursor) : Option { d : Cursor // d.rest.length < c.rest.length } :=
  match h : c.rest with
  | t :: rest => if t.isSymbol ")" then some ⟨⟨rest, c.opened - 1⟩, by simp⟩ else none
  | [] => none

/-- Goes past a comma. -/
def comma? (c : Cursor) : Option { d : Cursor // d.rest.length < c.rest.length } :=
  match h : c.rest with
  | t :: rest => if t.isSymbol "," then some ⟨⟨rest, c.opened⟩, by simp⟩ else none
  | [] => none

/-- The binary operator that a token spells, if it belongs to the tier. -/
def operatorOf? (tight : Bool) (t : Token) : Option Operator :=
  if t.kind = .operator then
    (Operator.ofSymbol? t.text).filter fun op => op.bindsTightly == tight
  else none

/-- Goes past an operator of the tier. -/
def operator? (tight : Bool) (c : Cursor) :
    Option (Operator × { d : Cursor // d.rest.length < c.rest.length }) :=
  match h : c.rest with
  | t :: rest => (operatorOf? tight t).map fun op => (op, ⟨⟨rest, c.opened⟩, by simp⟩)
  | [] => none

/-! ## The grammar -/

mutual

/-- A term, then looser operators and terms. -/
def expression (c : Cursor) : Except Fault (Parsed c.rest.length) := do
  let p ← term c
  have := p.shorter
  moreTerms p
termination_by (c.rest.length, 2)

/-- Looser operators and terms after what was read. -/
def moreTerms {n : Nat} (p : Parsed n) : Except Fault (Parsed n) :=
  match operator? false p.next with
  | none => .ok p
  | some (op, ⟨c, hc⟩) => do
    let q ← term c
    have := q.shorter
    let height ← heightAbove (max p.height q.height)
    moreTerms ⟨.operation op p.tree q.tree, height, q.next,
      Nat.lt_trans (Nat.lt_trans q.shorter hc) p.shorter⟩
termination_by (p.next.rest.length, 3)

/-- A factor, then tighter operators and factors. -/
def term (c : Cursor) : Except Fault (Parsed c.rest.length) := do
  let p ← factor c
  have := p.shorter
  moreFactors p
termination_by (c.rest.length, 1)

/-- Tighter operators and factors after what was read. -/
def moreFactors {n : Nat} (p : Parsed n) : Except Fault (Parsed n) :=
  match operator? true p.next with
  | none => .ok p
  | some (op, ⟨c, hc⟩) => do
    let q ← factor c
    have := q.shorter
    let height ← heightAbove (max p.height q.height)
    moreFactors ⟨.operation op p.tree q.tree, height, q.next,
      Nat.lt_trans (Nat.lt_trans q.shorter hc) p.shorter⟩
termination_by (p.next.rest.length, 3)

/-- A number, a reference, a quoted text, a group or a call. -/
def factor (c : Cursor) : Except Fault (Parsed c.rest.length) :=
  match h : c.rest with
  | [] => .error (.unexpectedToken "EOF")
  | t :: rest =>
    have hrest : rest.length < c.rest.length := by simp [h]
    match t.kind with
    | .number =>
      match readNumber? t.text with
      | some x => .ok ⟨.number x, 1, ⟨rest, c.opened⟩, by simp⟩
      | none => .error (.invalidNumber t.text)
    | .reference => .ok ⟨.reference t.text, 1, ⟨rest, c.opened⟩, by simp⟩
    | .characters => .ok ⟨.text t.text, 1, ⟨rest, c.opened⟩, by simp⟩
    | .function => do
      let p ← call t.text ⟨rest, c.opened⟩
      return ⟨p.tree, p.height, p.next, Nat.lt_trans p.shorter (by simp)⟩
    | .operator =>
      if t.text = "(" then do
        let ⟨inside, hi⟩ ← enter c rest
        have : inside.rest.length < c.rest.length := hi ▸ hrest
        let p ← expression inside
        match leave? p.next with
        | some ⟨after, ha⟩ =>
          return ⟨p.tree, p.height, after, by have := p.shorter; simp [hi] at this ⊢; omega⟩
        | none => throw .unclosedGroup
      else .error (.unexpectedToken t.text)
    | .formula => .error (.unexpectedToken t.cited)
termination_by (c.rest.length, 0)

/-- The arguments of a function and the node of its call. -/
def call (function : String) (c : Cursor) : Except Fault (Parsed c.rest.length) :=
  match h : c.rest with
  | [] => .error .missingArguments
  | t :: rest =>
    if t.isSymbol "(" then do
      let ⟨inside, hi⟩ ← enter c rest
      have : inside.rest.length < c.rest.length := by simp [hi, h]
      let args ← arguments inside
      match leave? args.next with
      | some ⟨after, ha⟩ => do
        let height ← heightAbove args.height
        return ⟨.call function args.trees, height, after,
          by have := args.shorter; simp [hi] at this ⊢; omega⟩
      | none => throw .unclosedArguments
    else .error .missingArguments
termination_by (c.rest.length, 0)

/-- The arguments up to the parenthesis that closes them, or up to where no comma follows. -/
def arguments (c : Cursor) : Except Fault (ParsedList c.rest.length) :=
  if (leave? c).isSome then .ok ⟨[], 0, c, Nat.le_refl _⟩
  else do
    let p ← expression c
    have := p.shorter
    match comma? p.next with
    | none => return ⟨[p.tree], p.height, p.next, Nat.le_of_lt p.shorter⟩
    | some ⟨after, ha⟩ => do
      let more ← arguments after
      return ⟨p.tree :: more.trees, max p.height more.height, more.next,
        by have := p.shorter; have := more.shorter; omega⟩
termination_by (c.rest.length, 3)

end

end Cursor

/-- The tree of the tokens up to the mark at their end. -/
def parse (tokens : List Token) : Except Fault Tree := do
  let p ← Cursor.expression ⟨tokens.takeWhile fun t => !t.isEnd, 0⟩
  match p.next.rest with
  | [] => return p.tree
  | t :: _ => throw (.unexpectedToken t.cited)

end Formula

end Spreadsheet
