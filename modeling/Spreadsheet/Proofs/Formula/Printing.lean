import Spreadsheet.Proofs.Formula.Spacing

/-!
# Writing a tree as a formula

A tree is written in infix, with parentheses only where the grammar would read another tree
without them. What was written is read as the tree again.

- `Draft`: a tree as it can be written, with a literal for each number.
- `Draft.tree`, `Draft.tokens`: the tree, and the tokens it is written with.
- `Draft.enclosesLeft`, `Draft.enclosesRight`: which operands stand in parentheses.
- `Draft.derived`, `Draft.withinLimit`: the grammar derives the tree from these tokens, and
  never more parentheses are open than the tree is high.
- `Draft.read_written`: any text of these tokens is split into them and read as the tree.
-/

namespace Spreadsheet

namespace Formula

open Grammar Token

/-- A tree as it can be written: a literal stands for each number, no quoted text has a quote in
it, and references and names are lexemes. -/
inductive Draft where
  | number (literal : String) (x : Float)
      (hliteral : LexemeClass.number.Contains literal.toList)
      (hread : readNumber? literal = some x)
  | text (s : String) (hs : '"' ∉ s.toList)
  | reference (address : String) (haddress : LexemeClass.reference.Contains address.toList)
  | operation (op : Operator) (left right : Draft)
  | call (function : String) (hfunction : LexemeClass.name.Contains function.toList)
      (arguments : List Draft)

namespace Draft

/-! ## Trees and tokens -/

mutual

/-- The tree that is written. -/
def tree : Draft → Tree
  | number _ x _ _ => .number x
  | text s _ => .text s
  | reference address _ => .reference address
  | operation op left right => .operation op left.tree right.tree
  | call function _ arguments => .call function (trees arguments)

/-- The trees that are written. -/
def trees : List Draft → List Tree
  | [] => []
  | d :: ds => d.tree :: trees ds

end

/-- The operator at the top. -/
def operator? : Draft → Option Operator
  | operation op _ _ => some op
  | _ => none

/-- Is the draft enclosed as the left operand? Before a tighter operator, a
looser operation is. -/
def enclosesLeft (op : Operator) (d : Draft) : Bool :=
  d.operator?.any fun inner => op.bindsTightly && !inner.bindsTightly

/-- Is the draft enclosed as the right operand? Behind a tighter operator, any operation is, and
behind a looser one, a looser operation is. -/
def enclosesRight (op : Operator) (d : Draft) : Bool :=
  d.operator?.any fun inner => op.bindsTightly || !inner.bindsTightly

/-- The tokens, in parentheses where these are needed. -/
def enclosed (needed : Bool) (ts : List Token) : List Token :=
  if needed then opening :: ts ++ [closing] else ts

mutual

/-- The tokens of a draft. -/
def tokens : Draft → List Token
  | number literal _ _ _ => [⟨.number, literal⟩]
  | text s _ => [⟨.characters, s⟩]
  | reference address _ => [⟨.reference, address⟩]
  | operation op left right =>
    enclosed (left.enclosesLeft op) left.tokens ++
      ofOperator op :: enclosed (right.enclosesRight op) right.tokens
  | call function _ arguments =>
    ⟨.function, function⟩ :: opening :: argumentTokens arguments ++ [closing]

/-- The tokens of arguments, with commas between them. -/
def argumentTokens : List Draft → List Token
  | [] => []
  | [d] => d.tokens
  | d :: e :: ds => d.tokens ++ comma :: argumentTokens (e :: ds)

end

/-! ## Derivations -/

/-- The grammar derives the draft, as a part of the tier of its operator. -/
structure Derived (d : Draft) : Prop where
  expression : Expression d.tokens d.tree
  term : (∀ op, d.operator? = some op → op.bindsTightly = true) → Term d.tokens d.tree
  factor : d.operator? = none → Factor d.tokens d.tree

namespace Derived

variable {d left right : Draft} {op : Operator}

/-- A factor is a term and an expression, too. -/
theorem of_factor (h : Factor d.tokens d.tree) : Derived d :=
  ⟨.term (.factor h), fun _ => .factor h, fun _ => h⟩

theorem of_leaf {a : Token} (htokens : d.tokens = [a]) (h : Leaf a d.tree) : Derived d :=
  of_factor (htokens ▸ .leaf h)

/-- An operand is a factor, if it is enclosed wherever it has an operator. -/
theorem factor_enclosed {needed : Bool} (h : Derived d)
    (hneeded : needed = false → d.operator? = none) :
    Factor (enclosed needed d.tokens) d.tree := by
  cases needed with
  | true => exact .group h.expression
  | false => exact h.factor (hneeded rfl)

/-- An operand is a term, if it is enclosed wherever it has a looser operator. -/
theorem term_enclosed {needed : Bool} (h : Derived d)
    (hneeded : needed = false → ∀ op, d.operator? = some op → op.bindsTightly = true) :
    Term (enclosed needed d.tokens) d.tree := by
  cases needed with
  | true => exact .factor (.group h.expression)
  | false => exact h.term (hneeded rfl)

/-- An operand of a tighter operator is a term on the left and a factor on the right. -/
theorem tight_operation (hleft : Derived left) (hright : Derived right)
    (hop : op.bindsTightly = true) :
    Term (Draft.operation op left right).tokens (Draft.operation op left right).tree := by
  refine .operation op (hleft.term_enclosed ?_) hop (hright.factor_enclosed ?_)
  · intro hneeded inner hinner
    simpa [enclosesLeft, hinner, hop] using hneeded
  · intro hneeded
    cases hinner : right.operator? with
    | none => rfl
    | some inner => simp [enclosesRight, hinner, hop] at hneeded

/-- An operand of a looser operator is an expression on the left and a term on the right. -/
theorem loose_operation (hleft : Derived left) (hright : Derived right)
    (hop : op.bindsTightly = false) :
    Expression (Draft.operation op left right).tokens (Draft.operation op left right).tree := by
  have hnone : left.enclosesLeft op = false := by simp [enclosesLeft, hop]
  have hexpression : Expression (enclosed (left.enclosesLeft op) left.tokens) left.tree := by
    rw [hnone]
    exact hleft.expression
  refine .operation op hexpression hop (hright.term_enclosed ?_)
  intro hneeded inner hinner
  simpa [enclosesRight, hinner, hop] using hneeded

/-- With the parentheses that it needs, an operation is read as it is drawn. -/
theorem operation (hleft : Derived left) (hright : Derived right) :
    Derived (.operation op left right) := by
  cases hop : op.bindsTightly with
  | true =>
    have hterm := hleft.tight_operation hright hop
    exact ⟨.term hterm, fun _ => hterm, nofun⟩
  | false =>
    refine ⟨hleft.loose_operation hright hop, fun htight => ?_, nofun⟩
    rw [htight op rfl] at hop
    cases hop

end Derived

mutual

theorem derived : (d : Draft) → Derived d
  | number _ _ _ hread => .of_leaf rfl (.number hread)
  | text s _ => .of_leaf rfl (.characters s)
  | reference address _ => .of_leaf rfl (.reference address)
  | operation _ left right => left.derived.operation right.derived
  | call _ _ arguments => .of_factor (.call (arguments_derived arguments))

/-- Arguments are written one after the other with commas between them. -/
theorem arguments_derived : (ds : List Draft) → Arguments (argumentTokens ds) (trees ds)
  | [] => .none
  | [d] => .last d.derived.expression
  | d :: e :: ds => .more d.derived.expression (arguments_derived (e :: ds))

end

/-! ## Parentheses -/

/-- How many more parentheses than its height allows may be open before a draft: an operation is
one higher than its operands, which takes care of the parenthesis that it may stand in. -/
def spare (d : Draft) : Nat := if d.operator?.isSome then 1 else 0

/-- Parentheses that are left out or put in keep the balance. -/
theorem balanced_enclosed {needed : Bool} {ts : List Token} (h : Balanced ts) :
    Balanced (enclosed needed ts) := by
  cases needed with
  | true => exact h.enclose
  | false => exact h

/-- An operand stays within the limit in parentheses too, if only operations are enclosed. -/
theorem withinLimit_enclosed {d : Draft} {needed : Bool} {n : Nat}
    (h : ∀ m, m + d.tree.height ≤ depthLimit + d.spare → WithinLimit m d.tokens)
    (hneeded : needed = true → d.operator?.isSome = true)
    (hn : n + d.tree.height ≤ depthLimit) : WithinLimit n (enclosed needed d.tokens) := by
  cases needed with
  | true =>
    refine (withinLimit_enclose d.derived.expression.balanced).mpr (h (n + 1) ?_)
    rw [spare, if_pos (hneeded rfl)]
    omega
  | false => exact h n (by omega)

-- the recursion keeps that the parentheses open before a part and its height stay
-- within the limit together
mutual

/-- The height of the tree and the parentheses to spare bound how many are open. -/
theorem withinLimit : (d : Draft) → ∀ n, n + d.tree.height ≤ depthLimit + d.spare →
    WithinLimit n d.tokens
  | number _ _ _ hread, _, h => withinLimit_leaf (.number hread) h
  | text s _, _, h => withinLimit_leaf (.characters s) h
  | reference address _, _, h => withinLimit_leaf (.reference address) h
  | operation op left right, n, h => by
    have hn : n + max left.tree.height right.tree.height ≤ depthLimit :=
      Nat.le_of_succ_le_succ h
    refine (withinLimit_append
      (balanced_enclosed left.derived.expression.balanced)).mpr ⟨?_, ?_⟩
    · exact withinLimit_enclosed left.withinLimit Option.isSome_of_any (by omega)
    · refine (withinLimit_cons (ofOperator_ne_opening op) (ofOperator_ne_closing op)).mpr ?_
      exact withinLimit_enclosed right.withinLimit Option.isSome_of_any (by omega)
  | call function _ arguments, n, h => by
    have hn : n + 1 + Tree.heights (trees arguments) ≤ depthLimit := by
      rw [Nat.add_right_comm]
      exact h
    have hopening : (⟨.function, function⟩ : Token) ≠ opening := nofun
    have hclosing : (⟨.function, function⟩ : Token) ≠ closing := nofun
    show WithinLimit n
      (⟨.function, function⟩ :: (opening :: argumentTokens arguments ++ [closing]))
    rw [withinLimit_cons hopening hclosing,
      withinLimit_enclose (arguments_derived arguments).balanced]
    exact arguments_withinLimit arguments (n + 1) hn

/-- The same of arguments, each of which is within the limit by itself. -/
theorem arguments_withinLimit :
    (ds : List Draft) → ∀ n, n + Tree.heights (trees ds) ≤ depthLimit →
    WithinLimit n (argumentTokens ds)
  | [], _, h => withinLimit_nil.mpr h
  | [d], n, h => by
    rw [trees, trees, Tree.heights, Tree.heights] at h
    exact d.withinLimit n (by omega)
  | d :: e :: ds, n, h => by
    rw [trees, Tree.heights] at h
    refine (withinLimit_append d.derived.expression.balanced).mpr
      ⟨d.withinLimit n (by omega), ?_⟩
    refine (withinLimit_cons (by decide) (by decide)).mpr ?_
    exact arguments_withinLimit (e :: ds) n (by omega)

end

/-! ## Spellings -/

/-- What stands before a token, the token and what stands behind it can be written. -/
theorem lexical_append_cons {us vs : List Token} {a : Token} (hus : ∀ b ∈ us, b.Lexical)
    (ha : a.Lexical) (hvs : ∀ b ∈ vs, b.Lexical) : ∀ b ∈ us ++ a :: vs, b.Lexical := by
  intro b hb
  rcases List.mem_append.mp hb with hb | hb
  · exact hus b hb
  · rcases List.mem_cons.mp hb with rfl | hb
    · exact ha
    · exact hvs b hb

theorem lexical_parentheses {ts : List Token} (h : ∀ a ∈ ts, a.Lexical) :
    ∀ a ∈ opening :: ts ++ [closing], a.Lexical := by
  have hclosed : ∀ a ∈ ts ++ [closing], a.Lexical := lexical_append_cons h lexical_closing nofun
  exact List.forall_mem_cons.mpr ⟨lexical_opening, hclosed⟩

/-- Parentheses that are put in are tokens that can be written. -/
theorem lexical_enclosed {needed : Bool} {ts : List Token} (h : ∀ a ∈ ts, a.Lexical) :
    ∀ a ∈ enclosed needed ts, a.Lexical := by
  cases needed with
  | true => exact lexical_parentheses h
  | false => exact h

mutual

/-- Every token of a draft can be written. -/
theorem lexical : (d : Draft) → ∀ a ∈ d.tokens, a.Lexical
  | number _ _ hliteral _ => List.forall_mem_singleton.mpr (lexical_number hliteral)
  | text _ hs => List.forall_mem_singleton.mpr (lexical_characters hs)
  | reference _ haddress => List.forall_mem_singleton.mpr (lexical_reference haddress)
  | operation op left right =>
    lexical_append_cons (lexical_enclosed left.lexical) (lexical_ofOperator op)
      (lexical_enclosed right.lexical)
  | call _ hfunction arguments =>
    List.forall_mem_cons.mpr
      ⟨lexical_function hfunction, lexical_parentheses (arguments_lexical arguments)⟩

theorem arguments_lexical : (ds : List Draft) → ∀ a ∈ argumentTokens ds, a.Lexical
  | [] => nofun
  | [d] => d.lexical
  | d :: e :: ds => lexical_append_cons d.lexical lexical_comma (arguments_lexical (e :: ds))

end

/-! ## Reading it back -/

/-- What a draft is written as, with any blank characters between its tokens, is split into
these tokens and read as the tree of the draft, if that is not higher than the limit. -/
theorem read_written (d : Draft) (hheight : d.tree.height ≤ depthLimit) (formula : String)
    (hformula : Spaced d.tokens formula.toList) :
    tokenize formula = .ok (d.tokens ++ [endMark]) ∧
    parse (d.tokens ++ [endMark]) = .ok d.tree :=
  read_of_spaced hformula d.lexical d.derived.expression hheight (d.withinLimit 0 (by omega))

/-- A product of a sum and a call. -/
def sumTimesCall : Draft :=
  .operation .multiply
    (.operation .add
      (.reference "A1" (LexemeClass.reference_of_letter 'A' '1' rfl rfl))
      (.number "2" (Numeral.nearest 2 0) (.digits nofun (List.all_eq_true.mp rfl)) rfl))
    (.call "SUM" (.name nofun (List.all_eq_true.mp rfl)) [])

/-- Nothing but the needed parentheses is written here, and no white space. -/
theorem read_written_sumTimesCall :
    sumTimesCall.tree.height ≤ depthLimit ∧ Spaced sumTimesCall.tokens "(A1+2)*SUM()".toList ∧
      tokenize "(A1+2)*SUM()" = .ok (sumTimesCall.tokens ++ [endMark]) ∧
      parse (sumTimesCall.tokens ++ [endMark]) = .ok sumTimesCall.tree := by
  have hheight : sumTimesCall.tree.height ≤ depthLimit := by decide
  have hformula : Spaced sumTimesCall.tokens "(A1+2)*SUM()".toList :=
    spaced_spelling sumTimesCall.tokens
  exact ⟨hheight, hformula, read_written sumTimesCall hheight _ hformula⟩

end Draft

end Formula

end Spreadsheet
