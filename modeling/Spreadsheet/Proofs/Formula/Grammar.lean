import Spreadsheet.Formula.Token
import Spreadsheet.Formula.Tree
import Spreadsheet.Formula.Fault
import Spreadsheet.Number.Numeral

/-!
# The grammar of formulas

Which lists of tokens a tree may be read from, apart from how it is read:

- expression = term { looser operator, term };
- term = factor { tighter operator, factor };
- factor = number | reference | quoted text | `(` expression `)` | name `(` arguments `)`;
- arguments = [ expression { `,` expression } [ `,` ] ].

Both repetitions group to the left, so they are stated with what stands before
the last operator.

- `Grammar.Expression`, `Grammar.Term`, `Grammar.Factor`, `Grammar.Leaf`, `Grammar.Arguments`:
  the derivations of a tree, or of the trees of an argument list, from tokens.
- `WithinLimit`: at no place in a list of tokens are too many parentheses open.
- `Expression.balanced`: derived tokens close as many parentheses as they open, so that how many
  are open before a part does not depend on the parts before it (`withinLimit_append`).
-/

namespace Spreadsheet

namespace Formula

namespace Token

/-- The token of an operator. -/
def ofOperator (op : Operator) : Token := ⟨.operator, op.symbol⟩

/-- The token that opens a group or an argument list. -/
def opening : Token := ⟨.operator, "("⟩

/-- The token that closes a group or an argument list. -/
def closing : Token := ⟨.operator, ")"⟩

/-- The token between two arguments. -/
def comma : Token := ⟨.operator, ","⟩

end Token

namespace Grammar

open Token

/-! ## Derivations -/

/-- A factor of one token. -/
inductive Leaf : Token → Tree → Prop
  | number {s : String} {x : Float} : readNumber? s = some x → Leaf ⟨.number, s⟩ (.number x)
  | reference (address : String) : Leaf ⟨.reference, address⟩ (.reference address)
  | characters (s : String) : Leaf ⟨.characters, s⟩ (.text s)

mutual

/-- An expression: terms with looser operators between them. -/
inductive Expression : List Token → Tree → Prop
  | term {ts : List Token} {t : Tree} : Term ts t → Expression ts t
  | operation {us vs : List Token} {l r : Tree} (op : Operator) :
      Expression us l → op.bindsTightly = false → Term vs r →
        Expression (us ++ ofOperator op :: vs) (.operation op l r)

/-- A term: factors with tighter operators between them. -/
inductive Term : List Token → Tree → Prop
  | factor {ts : List Token} {t : Tree} : Factor ts t → Term ts t
  | operation {us vs : List Token} {l r : Tree} (op : Operator) :
      Term us l → op.bindsTightly = true → Factor vs r →
        Term (us ++ ofOperator op :: vs) (.operation op l r)

/-- A factor. A group leaves no node of its own. -/
inductive Factor : List Token → Tree → Prop
  | leaf {a : Token} {t : Tree} : Leaf a t → Factor [a] t
  | group {ts : List Token} {t : Tree} : Expression ts t → Factor (opening :: ts ++ [closing]) t
  | call {function : String} {ts : List Token} {args : List Tree} :
      Arguments ts args →
        Factor (⟨.function, function⟩ :: opening :: ts ++ [closing]) (.call function args)

/-- The arguments of a call. No tree stands for a comma after the last of them. -/
inductive Arguments : List Token → List Tree → Prop
  | none : Arguments [] []
  | last {ts : List Token} {t : Tree} : Expression ts t → Arguments ts [t]
  | more {ts us : List Token} {t : Tree} {args : List Tree} :
      Expression ts t → Arguments us args → Arguments (ts ++ comma :: us) (t :: args)

end

/-! ## Parentheses -/

/-- Never are more than `depthLimit` parentheses open within the tokens, if `opened`
are open before them. -/
def WithinLimit (opened : Nat) (ts : List Token) : Prop :=
  ∀ us, us <+: ts → opened + us.count opening ≤ us.count closing + depthLimit

/-- As many parentheses are closed as are opened. -/
def Balanced (ts : List Token) : Prop := ts.count opening = ts.count closing

theorem ofOperator_ne_opening (op : Operator) : ofOperator op ≠ opening := by
  cases op <;> decide

theorem ofOperator_ne_closing (op : Operator) : ofOperator op ≠ closing := by
  cases op <;> decide

theorem ofOperator_ne_comma (op : Operator) : ofOperator op ≠ comma := by
  cases op <;> decide

/-- Operators are told apart by their symbols. -/
theorem ofOperator_injective {op op' : Operator} (h : ofOperator op = ofOperator op') :
    op = op' := by
  -- an operator is read from its own symbol, and both have the same one
  have hsymbol : op.symbol = op'.symbol := (Token.mk.inj h).2
  have := Operator.ofSymbol?_symbol op
  rw [hsymbol, Operator.ofSymbol?_symbol] at this
  exact (Option.some.inj this).symm

/-- Parentheses, commas and the symbols of operations are tokens of one kind, and a leaf is of
another. -/
theorem Leaf.kind_ne_operator {a : Token} {t : Tree} (h : Leaf a t) : a.kind ≠ .operator := by
  cases h <;> nofun

theorem Leaf.kind_ne_function {a : Token} {t : Tree} (h : Leaf a t) : a.kind ≠ .function := by
  cases h <;> nofun

theorem Leaf.kind_ne_formula {a : Token} {t : Tree} (h : Leaf a t) : a.kind ≠ .formula := by
  cases h <;> nofun

theorem Leaf.ne_opening {a : Token} {t : Tree} (h : Leaf a t) : a ≠ opening := by
  cases h <;> nofun

theorem Leaf.ne_closing {a : Token} {t : Tree} (h : Leaf a t) : a ≠ closing := by
  cases h <;> nofun

/-- A leaf is as low as a tree can be. -/
theorem Leaf.height {a : Token} {t : Tree} (h : Leaf a t) : t.height = 1 := by
  cases h <;> rfl

/-- Only an operator token can be a parenthesis. -/
theorem ne_of_kind {a b : Token} {kind : TokenKind} (ha : a.kind = kind) (hb : b.kind ≠ kind) :
    a ≠ b := by
  rintro rfl
  exact hb ha

/-- Balanced runs follow each other in a balanced run. -/
theorem Balanced.append {ts us : List Token} (h : Balanced ts) (k : Balanced us) :
    Balanced (ts ++ us) := by
  unfold Balanced at *
  rw [List.count_append, List.count_append, h, k]

/-- A token that is no parenthesis does not change the balance. -/
theorem Balanced.cons {a : Token} {ts : List Token} (h : Balanced ts) (ho : a ≠ opening)
    (hc : a ≠ closing) : Balanced (a :: ts) := by
  unfold Balanced at *
  rw [List.count_cons_of_ne ho, List.count_cons_of_ne hc, h]

theorem balanced_nil : Balanced [] := rfl

theorem balanced_ofOperator (op : Operator) : Balanced [ofOperator op] :=
  balanced_nil.cons (ofOperator_ne_opening op) (ofOperator_ne_closing op)

theorem balanced_comma : Balanced [comma] :=
  balanced_nil.cons (by decide) (by decide)

theorem balanced_name (function : String) : Balanced [⟨.function, function⟩] :=
  balanced_nil.cons nofun nofun

/-- Parentheses around a balanced run are a balanced run. -/
theorem Balanced.enclose {ts : List Token} (h : Balanced ts) :
    Balanced (opening :: ts ++ [closing]) := by
  unfold Balanced at *
  have hne : opening ≠ closing := by decide
  simp [h, hne, hne.symm]

mutual

/-- The tokens of an expression close what they open. -/
theorem Expression.balanced {ts : List Token} {t : Tree} : Expression ts t → Balanced ts
  | .term h => h.balanced
  | .operation op h _ k =>
    h.balanced.append (k.balanced.cons (ofOperator_ne_opening op) (ofOperator_ne_closing op))

/-- The tokens of a term close what they open. -/
theorem Term.balanced {ts : List Token} {t : Tree} : Term ts t → Balanced ts
  | .factor h => h.balanced
  | .operation op h _ k =>
    h.balanced.append (k.balanced.cons (ofOperator_ne_opening op) (ofOperator_ne_closing op))

/-- The tokens of a factor close what they open. -/
theorem Factor.balanced {ts : List Token} {t : Tree} : Factor ts t → Balanced ts
  | .leaf h => balanced_nil.cons h.ne_opening h.ne_closing
  | .group h => h.balanced.enclose
  | .call h => h.balanced.enclose.cons nofun nofun

/-- The tokens of an argument list close what they open. -/
theorem Arguments.balanced {ts : List Token} {args : List Tree} :
    Arguments ts args → Balanced ts
  | .none => balanced_nil
  | .last h => h.balanced
  | .more h k => h.balanced.append (k.balanced.cons (by decide) (by decide))

end

/-- A token that an operand may start with. -/
def StartsOperand (a : Token) : Prop := a.kind ≠ .operator ∨ a = opening

/-- A leaf may stand where an operand is expected. -/
theorem Leaf.startsOperand {a : Token} {t : Tree} (h : Leaf a t) : StartsOperand a := by
  cases h <;> exact .inl nofun

/-- No operand starts with a closing parenthesis. -/
theorem StartsOperand.ne_closing {a : Token} (h : StartsOperand a) : a ≠ closing := by
  rintro rfl
  rcases h with h | h
  · exact h rfl
  · revert h
    decide

mutual

/-- An expression starts as an operand does. -/
theorem Expression.starts {ts : List Token} {t : Tree} :
    Expression ts t → ∃ a us, ts = a :: us ∧ StartsOperand a
  | .term h => h.starts
  | .operation _ h _ _ =>
    let ⟨a, us, hts, ha⟩ := h.starts
    ⟨a, us ++ _, congrArg (· ++ _) hts, ha⟩

/-- A term starts as an operand does. -/
theorem Term.starts {ts : List Token} {t : Tree} :
    Term ts t → ∃ a us, ts = a :: us ∧ StartsOperand a
  | .factor h => h.starts
  | .operation _ h _ _ =>
    let ⟨a, us, hts, ha⟩ := h.starts
    ⟨a, us ++ _, congrArg (· ++ _) hts, ha⟩

/-- A factor starts as an operand does. -/
theorem Factor.starts {ts : List Token} {t : Tree} :
    Factor ts t → ∃ a us, ts = a :: us ∧ StartsOperand a
  | .leaf h => ⟨_, _, rfl, h.startsOperand⟩
  | .group _ => ⟨_, _, rfl, .inr rfl⟩
  | .call _ => ⟨_, _, rfl, .inl nofun⟩

end

/-! ## Parentheses within parts -/

/-- Those that are open at the end are within the limit. -/
theorem WithinLimit.le {n : Nat} {ts : List Token} (h : WithinLimit n ts) : n ≤ depthLimit := by
  simpa using h [] List.nil_prefix

@[simp] theorem withinLimit_nil {n : Nat} : WithinLimit n [] ↔ n ≤ depthLimit := by
  refine ⟨WithinLimit.le, fun h us hus => ?_⟩
  rw [List.prefix_nil.mp hus]
  simpa using h

/-- A token that is no parenthesis changes nothing. -/
theorem withinLimit_cons {n : Nat} {a : Token} {ts : List Token} (ho : a ≠ opening)
    (hc : a ≠ closing) : WithinLimit n (a :: ts) ↔ WithinLimit n ts := by
  constructor
  · intro h us hus
    have := h (a :: us) (List.cons_prefix_cons.mpr ⟨rfl, hus⟩)
    rwa [List.count_cons_of_ne ho, List.count_cons_of_ne hc] at this
  · intro h us hus
    rcases List.prefix_cons_iff.mp hus with rfl | ⟨vs, rfl, hvs⟩
    · simpa using h.le
    · rw [List.count_cons_of_ne ho, List.count_cons_of_ne hc]
      exact h vs hvs

/-- A leaf is within any limit that its own height is within. -/
theorem withinLimit_leaf {a : Token} {t : Tree} {n : Nat} (hleaf : Leaf a t)
    (hn : n + t.height ≤ depthLimit) : WithinLimit n [a] := by
  rw [withinLimit_cons hleaf.ne_opening hleaf.ne_closing, withinLimit_nil]
  omega

/-- A parenthesis that opens counts from there on. -/
theorem withinLimit_opening {n : Nat} {ts : List Token} :
    WithinLimit n (opening :: ts) ↔ WithinLimit (n + 1) ts := by
  have hne : opening ≠ closing := by decide
  constructor
  · intro h us hus
    -- a start of the rest is a start of the whole, with the parenthesis before it
    have := h (opening :: us) (List.cons_prefix_cons.mpr ⟨rfl, hus⟩)
    rw [List.count_cons_self, List.count_cons_of_ne hne] at this
    omega
  · intro h us hus
    rcases List.prefix_cons_iff.mp hus with rfl | ⟨vs, rfl, hvs⟩
    · have := h.le
      simp only [List.count_nil]
      omega
    · have := h vs hvs
      rw [List.count_cons_self, List.count_cons_of_ne hne]
      omega

/-- After a part that closes what it opens, as many are open as before it. -/
theorem withinLimit_append {n : Nat} {ts us : List Token} (hts : Balanced ts) :
    WithinLimit n (ts ++ us) ↔ WithinLimit n ts ∧ WithinLimit n us := by
  unfold Balanced at hts
  constructor
  · intro h
    refine ⟨fun vs hvs => h vs (List.prefix_append_of_prefix hvs), fun vs hvs => ?_⟩
    have := h (ts ++ vs) ((List.prefix_append_right_inj ts).mpr hvs)
    rw [List.count_append, List.count_append] at this
    omega
  · rintro ⟨h, k⟩ vs hvs
    -- the start ends within the first part or within the second
    rcases Nat.le_total vs.length ts.length with hle | hle
    · exact h vs (List.prefix_of_prefix_length_le hvs (List.prefix_append ts us) hle)
    · obtain ⟨ws, rfl⟩ := List.prefix_of_prefix_length_le (List.prefix_append ts us) hvs hle
      have := k ws ((List.prefix_append_right_inj ts).mp hvs)
      rw [List.count_append, List.count_append]
      omega

/-- What is enclosed has one more parenthesis open. -/
theorem withinLimit_enclose {n : Nat} {ts : List Token} (hts : Balanced ts) :
    WithinLimit n (opening :: ts ++ [closing]) ↔ WithinLimit (n + 1) ts := by
  -- the parenthesis that closes asks for no more than what it closes
  have hclose : WithinLimit (n + 1) ts → WithinLimit (n + 1) [closing] := by
    intro h us hus
    have := h.le
    rcases List.prefix_cons_iff.mp hus with rfl | ⟨vs, rfl, hvs⟩
    · simpa using this
    · obtain rfl := List.prefix_nil.mp hvs
      have hcount : [closing].count opening = 0 := by decide
      rw [hcount]
      omega
  rw [List.cons_append, withinLimit_opening, withinLimit_append hts]
  exact ⟨And.left, fun h => ⟨h, hclose h⟩⟩

end Grammar

/-- Both operands are lower than the operation. -/
theorem Tree.height_operation_le {op : Operator} {l r : Tree} {n : Nat}
    (h : (Tree.operation op l r).height ≤ n) : l.height ≤ n ∧ r.height ≤ n := by
  rw [Tree.height] at h
  omega

end Formula

end Spreadsheet
