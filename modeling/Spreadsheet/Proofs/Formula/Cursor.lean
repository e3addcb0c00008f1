import Spreadsheet.Formula.Cursor
import Spreadsheet.Proofs.Formula.Grammar
import Spreadsheet.Proofs.Outcome

/-!
# Steps of reading

What each function of `Cursor` does when it succeeds, so that no later proof looks into one.

- `enter_eq_ok_iff`, `leave?_eq_some_iff`, `comma?_eq_some_iff`, `operator?_eq_some_iff`: the
  steps that go past one token.
- `expression_eq_ok_iff`, `term_eq_ok_iff`, `factor_eq_ok_iff`, `call_eq_ok_iff`,
  `arguments_eq_ok_iff`: the rules of the grammar.
- `factor_error_cases`, `call_error_cases`, `expression_error_cases`, `moreTerms_error_cases`
  and their like: why a rule refuses the tokens.
- `moreTerms_of_operator`, `moreFactors_of_operator`: one round of a repetition.
- `operator?_of_expression`: no operator follows what was read.
-/

namespace Spreadsheet

namespace Formula

open Grammar Token

attribute [ext] Parsed ParsedList

/-- A tree may be as high as the limit, and no higher. -/
theorem heightAbove_eq_ok_iff {n m : Nat} :
    heightAbove n = .ok m ↔ n + 1 ≤ depthLimit ∧ m = n + 1 := by
  unfold heightAbove
  split
  · next h => simp [h, eq_comm]
  · next h => simp [h]

/-- There is no other reason to refuse a height. -/
theorem eq_tooDeep_of_heightAbove {n : Nat} {e : Fault} (h : heightAbove n = .error e) :
    e = .tooDeep := by
  unfold heightAbove at h
  split at h
  · cases h
  · exact (Except.error.inj h).symm

namespace Cursor

/-! ## Steps -/

variable {c : Cursor}

/-- One more parenthesis may be open if the limit allows it. -/
theorem enter_eq_ok_iff {rest : List Token} {d : { d : Cursor // d.rest = rest }} :
    enter c rest = .ok d ↔ c.opened + 1 ≤ depthLimit ∧ d.1 = ⟨rest, c.opened + 1⟩ := by
  unfold enter
  split
  · next h => simp [h, Subtype.ext_iff, eq_comm]
  · next h => simp [h]

/-- There is no other reason not to enter a parenthesis. -/
theorem eq_tooDeep_of_enter {rest : List Token} {e : Fault} (h : enter c rest = .error e) :
    e = .tooDeep := by
  unfold enter at h
  split at h
  · cases h
  · exact (Except.error.inj h).symm

/-- A parenthesis is left over a closing one. -/
theorem leave?_eq_some_iff {d : { d : Cursor // d.rest.length < c.rest.length }} :
    leave? c = some d ↔ ∃ rest, c.rest = closing :: rest ∧ d.1 = ⟨rest, c.opened - 1⟩ := by
  obtain ⟨rest, opened⟩ := c
  cases rest with
  | nil => simp [leave?]
  | cons t rest =>
    simp only [leave?, Token.isSymbol, closing, beq_iff_eq]
    split
    · next ht => simp [ht, Subtype.ext_iff, eq_comm]
    · next ht => simp [ht]

/-- A comma is gone past if it comes next. -/
theorem comma?_eq_some_iff {d : { d : Cursor // d.rest.length < c.rest.length }} :
    comma? c = some d ↔ ∃ rest, c.rest = comma :: rest ∧ d.1 = ⟨rest, c.opened⟩ := by
  obtain ⟨rest, opened⟩ := c
  cases rest with
  | nil => simp [comma?]
  | cons t rest =>
    simp only [comma?, Token.isSymbol, comma, beq_iff_eq]
    split
    · next ht => simp [ht, Subtype.ext_iff, eq_comm]
    · next ht => simp [ht]

/-- A token is an operator if it is spelled like one, and it binds as this operator does. -/
theorem operatorOf?_eq_some_iff {tight : Bool} {t : Token} {op : Operator} :
    operatorOf? tight t = some op ↔ t = ofOperator op ∧ op.bindsTightly = tight := by
  obtain ⟨kind, text⟩ := t
  unfold operatorOf?
  constructor
  · intro h
    split at h
    · next hk =>
      obtain ⟨h, ht⟩ := Option.filter_eq_some_iff.mp h
      have hk : kind = .operator := hk
      subst hk
      exact ⟨by rw [ofOperator, Operator.symbol_of_ofSymbol? h], by simpa using ht⟩
    · cases h
  · rintro ⟨h, rfl⟩
    cases h
    simp

/-- An operator is gone past if it comes next and binds as tightly as is asked. -/
theorem operator?_eq_some_iff {tight : Bool} {op : Operator}
    {d : { d : Cursor // d.rest.length < c.rest.length }} :
    operator? tight c = some (op, d) ↔
      op.bindsTightly = tight ∧ ∃ rest, c.rest = ofOperator op :: rest ∧
      d.1 = ⟨rest, c.opened⟩ := by
  obtain ⟨rest, opened⟩ := c
  cases rest with
  | nil => simp [operator?]
  | cons t rest =>
    simp only [operator?, Option.map_eq_some_iff, Prod.mk.injEq, Subtype.ext_iff,
      operatorOf?_eq_some_iff, List.cons.injEq]
    grind

/-! ## Factors and calls -/

/-- The same was read, though it may be counted from different places. -/
def Same {n m : Nat} (p : Parsed n) (q : Parsed m) : Prop :=
  p.tree = q.tree ∧ p.height = q.height ∧ p.next = q.next

/-- A factor is a leaf, or a call after its name, or an expression between parentheses. -/
theorem factor_eq_ok_iff {p : Parsed c.rest.length} :
    factor c = .ok p ↔ ∃ a rest, c.rest = a :: rest ∧
      ((Leaf a p.tree ∧ p.height = 1 ∧ p.next = ⟨rest, c.opened⟩) ∨
      (∃ q, a.kind = .function ∧ call a.text ⟨rest, c.opened⟩ = .ok q ∧ Same p q) ∨
      (a = opening ∧ ∃ inside q after, enter c rest = .ok inside ∧ expression inside.1 = .ok q ∧
        leave? q.next = some after ∧
        p.tree = q.tree ∧ p.height = q.height ∧ p.next = after.1)) := by
  obtain ⟨rest, opened⟩ := c
  cases rest with
  | nil => simp [factor]
  | cons a rest =>
    obtain ⟨kind, text⟩ := a
    rw [factor]
    constructor
    · intro h
      refine ⟨_, _, rfl, ?_⟩
      cases kind with
      | number =>
        dsimp only at h
        split at h
        · next x hx =>
          cases h
          exact .inl ⟨.number hx, rfl, rfl⟩
        · cases h
      | reference =>
        cases h
        exact .inl ⟨.reference text, rfl, rfl⟩
      | characters =>
        cases h
        exact .inl ⟨.characters text, rfl, rfl⟩
      | function =>
        obtain ⟨q, hq, h⟩ := bind_eq_ok_iff.mp h
        cases h
        exact .inr (.inl ⟨q, rfl, hq, rfl, rfl, rfl⟩)
      | operator =>
        dsimp only at h
        split at h
        · next htext =>
          subst htext
          obtain ⟨inside, henter, h⟩ := bind_eq_ok_iff.mp h
          obtain ⟨q, hq, h⟩ := bind_eq_ok_iff.mp h
          split at h
          · next after _ hleave =>
            cases h
            exact .inr (.inr ⟨rfl, inside, q, _, henter, hq, hleave, rfl, rfl, rfl⟩)
          · cases h
        · cases h
      | formula => cases h
    · rintro ⟨a, tail, hrest, h⟩
      cases hrest
      -- what was read is given by its tree, its height and the place after it
      rcases h with ⟨hleaf, hheight, hnext⟩ | ⟨q, hkind, hq, hsame⟩ | ⟨ha, h⟩
      · obtain ⟨tree, height, next, shorter⟩ := p
        cases hheight; cases hnext
        cases hleaf with
        | number hx => simp only [hx]
        | reference => rfl
        | characters => rfl
      · cases hkind
        refine bind_eq_ok_iff.mpr ⟨q, hq, ?_⟩
        exact congrArg Except.ok (Parsed.ext hsame.1.symm hsame.2.1.symm hsame.2.2.symm)
      · cases ha
        obtain ⟨inside, q, after, henter, hq, hleave, htree, hheight, hnext⟩ := h
        dsimp only
        rw [if_pos rfl]
        refine bind_eq_ok_iff.mpr ⟨inside, henter, ?_⟩
        refine bind_eq_ok_iff.mpr ⟨q, hq, ?_⟩
        simp only [hleave]
        exact congrArg Except.ok (Parsed.ext htree.symm hheight.symm hnext.symm)

/-- A call is its arguments between parentheses, and one higher than they are. -/
theorem call_eq_ok_iff {function : String} {p : Parsed c.rest.length} :
    call function c = .ok p ↔ ∃ rest inside q after, c.rest = opening :: rest ∧
      enter c rest = .ok inside ∧ arguments inside.1 = .ok q ∧ leave? q.next = some after ∧
        p.tree = .call function q.trees ∧ heightAbove q.height = .ok p.height ∧
        p.next = after.1 := by
  obtain ⟨rest, opened⟩ := c
  cases rest with
  | nil => simp [call]
  | cons a rest =>
    rw [call]
    constructor
    · intro h
      dsimp only at h
      split at h
      · next ha =>
        obtain rfl : a = opening := eq_of_beq ha
        obtain ⟨inside, henter, h⟩ := bind_eq_ok_iff.mp h
        obtain ⟨q, hq, h⟩ := bind_eq_ok_iff.mp h
        split at h
        · next after _ hleave =>
          obtain ⟨height, habove, h⟩ := bind_eq_ok_iff.mp h
          cases h
          exact ⟨rest, inside, q, _, rfl, henter, hq, hleave, rfl, habove, rfl⟩
        · cases h
      · cases h
    · rintro ⟨tail, inside, q, after, hrest, henter, hq, hleave, htree, habove, hnext⟩
      cases hrest
      dsimp only
      rw [if_pos (by decide)]
      refine bind_eq_ok_iff.mpr ⟨inside, henter, ?_⟩
      refine bind_eq_ok_iff.mpr ⟨q, hq, ?_⟩
      simp only [hleave]
      refine bind_eq_ok_iff.mpr ⟨p.height, habove, ?_⟩
      exact congrArg Except.ok (Parsed.ext htree.symm rfl hnext.symm)

/-! ## Faults of factors and calls -/

/-- Why no factor is read: the tokens are at an end, or the first of them is what is wrong or
starts something that is. -/
theorem factor_error_cases {e : Fault} (h : factor c = .error e) :
    (c.rest = [] ∧ e = .unexpectedToken "EOF") ∨ ∃ a rest, c.rest = a :: rest ∧
      ((a.kind = .number ∧ e = .invalidNumber a.text) ∨
      (a.kind = .function ∧ call a.text ⟨rest, c.opened⟩ = .error e) ∨
      (a = opening ∧ (enter c rest = .error e ∨ ∃ inside, enter c rest = .ok inside ∧
        (expression inside.1 = .error e ∨
        ∃ q, expression inside.1 = .ok q ∧ leave? q.next = none ∧ e = .unclosedGroup))) ∨
      ((a.kind = .operator ∨ a.kind = .formula) ∧ a ≠ opening ∧
        e = .unexpectedToken a.cited)) := by
  obtain ⟨rest, opened⟩ := c
  cases rest with
  | nil =>
    rw [factor] at h
    cases h
    exact .inl ⟨rfl, rfl⟩
  | cons a rest =>
    obtain ⟨kind, text⟩ := a
    rw [factor] at h
    refine .inr ⟨_, _, rfl, ?_⟩
    cases kind with
    | number =>
      dsimp only at h
      split at h
      · cases h
      · cases h
        exact .inl ⟨rfl, rfl⟩
    | reference => cases h
    | characters => cases h
    | function =>
      rcases bind_eq_error_iff.mp h with h | ⟨q, -, h⟩
      · exact .inr (.inl ⟨rfl, h⟩)
      · cases h
    | operator =>
      dsimp only at h
      split at h
      · next htext =>
        refine .inr (.inr (.inl ⟨by rw [htext]; rfl, ?_⟩))
        rcases bind_eq_error_iff.mp h with h | ⟨inside, henter, h⟩
        · exact .inl h
        refine .inr ⟨inside, henter, ?_⟩
        rcases bind_eq_error_iff.mp h with h | ⟨q, hq, h⟩
        · exact .inl h
        split at h
        · cases h
        · next hleave =>
          cases h
          exact .inr ⟨q, hq, hleave, rfl⟩
      · next htext =>
        cases h
        refine .inr (.inr (.inr ⟨.inl rfl, fun ha => htext (congrArg Token.text ha), ?_⟩))
        exact congrArg Fault.unexpectedToken (cited_symbol text).symm
    | formula =>
      cases h
      exact .inr (.inr (.inr ⟨.inr rfl, by rintro ⟨⟩, rfl⟩))

/-- Why no call is read: no parenthesis follows the name, or something is wrong behind it. -/
theorem call_error_cases {function : String} {e : Fault} (h : call function c = .error e) :
    ((∀ rest, c.rest ≠ opening :: rest) ∧ e = .missingArguments) ∨
      ∃ rest, c.rest = opening :: rest ∧ (enter c rest = .error e ∨
        ∃ inside, enter c rest = .ok inside ∧ (arguments inside.1 = .error e ∨
          ∃ q, arguments inside.1 = .ok q ∧ ((leave? q.next = none ∧ e = .unclosedArguments) ∨
            heightAbove q.height = .error e))) := by
  obtain ⟨rest, opened⟩ := c
  cases rest with
  | nil =>
    rw [call] at h
    cases h
    exact .inl ⟨nofun, rfl⟩
  | cons a rest =>
    rw [call] at h
    dsimp only at h
    split at h
    · next ha =>
      obtain rfl : a = opening := eq_of_beq ha
      refine .inr ⟨rest, rfl, ?_⟩
      rcases bind_eq_error_iff.mp h with h | ⟨inside, henter, h⟩
      · exact .inl h
      refine .inr ⟨inside, henter, ?_⟩
      rcases bind_eq_error_iff.mp h with h | ⟨q, hq, h⟩
      · exact .inl h
      refine .inr ⟨q, hq, ?_⟩
      split at h
      · rcases bind_eq_error_iff.mp h with h | ⟨height, -, h⟩
        · exact .inr h
        · cases h
      · next hleave =>
        cases h
        exact .inl ⟨hleave, rfl⟩
    · next ha =>
      cases h
      refine .inl ⟨?_, rfl⟩
      rintro tail ⟨⟩
      exact ha (by decide)

/-! ## Repetitions -/

/-- An expression begins with a term. -/
theorem expression_eq_ok_iff {p : Parsed c.rest.length} :
    expression c = .ok p ↔ ∃ q, term c = .ok q ∧ moreTerms q = .ok p := by
  rw [expression]
  exact bind_eq_ok_iff

/-- A term begins with a factor. -/
theorem term_eq_ok_iff {p : Parsed c.rest.length} :
    term c = .ok p ↔ ∃ q, factor c = .ok q ∧ moreFactors q = .ok p := by
  rw [term]
  exact bind_eq_ok_iff

variable {n : Nat} {p q : Parsed n} {op : Operator}

/-- What was read after one more round of a repetition: the operator and the
operand after it. -/
def Extends (q p : Parsed n) (op : Operator) {m : Nat} (r : Parsed m) : Prop :=
  q.tree = .operation op p.tree r.tree ∧ heightAbove (max p.height r.height) = .ok q.height ∧
    q.next = r.next

theorem moreTerms_of_none (h : operator? false p.next = none) : moreTerms p = .ok p := by
  rw [moreTerms, h]

theorem moreFactors_of_none (h : operator? true p.next = none) : moreFactors p = .ok p := by
  rw [moreFactors, h]

/-- One more operand is read, and the rest follows the longer expression. -/
theorem moreTerms_of_operator {d : { d : Cursor // d.rest.length < p.next.rest.length }}
    {r : Parsed d.1.rest.length} (hop : operator? false p.next = some (op, d))
    (hr : term d.1 = .ok r) (hq : Extends q p op r) : moreTerms p = moreTerms q := by
  obtain ⟨htree, hheight, hnext⟩ := hq
  rw [moreTerms, hop]
  -- both continue from the same tree and place, which are all that the repetition looks at
  simp only [hr, hheight, bind, Except.bind]
  exact congrArg moreTerms (Parsed.ext htree.symm rfl hnext.symm)

/-- One more tight operand is read, and the rest follows the longer term. -/
theorem moreFactors_of_operator {d : { d : Cursor // d.rest.length < p.next.rest.length }}
    {r : Parsed d.1.rest.length} (hop : operator? true p.next = some (op, d))
    (hr : factor d.1 = .ok r) (hq : Extends q p op r) : moreFactors p = moreFactors q := by
  obtain ⟨htree, hheight, hnext⟩ := hq
  rw [moreFactors, hop]
  simp only [hr, hheight, bind, Except.bind]
  exact congrArg moreFactors (Parsed.ext htree.symm rfl hnext.symm)

/-- A repetition either ends where it stands or goes one round. -/
theorem moreTerms_cases (h : moreTerms p = .ok q) :
    (operator? false p.next = none ∧ q = p) ∨
    ∃ op d r s, operator? false p.next = some (op, d) ∧ term d.1 = .ok r ∧
      Extends s p op r ∧ moreTerms s = .ok q := by
  rw [moreTerms] at h
  split at h
  · next hop => exact .inl ⟨hop, (Except.ok.inj h).symm⟩
  · next op d hd hop =>
    obtain ⟨r, hr, h⟩ := bind_eq_ok_iff.mp h
    obtain ⟨height, hheight, h⟩ := bind_eq_ok_iff.mp h
    exact .inr ⟨op, ⟨d, hd⟩, r, _, hop, hr, ⟨rfl, hheight, rfl⟩, h⟩

/-- A repetition either ends where it stands or goes one round. -/
theorem moreFactors_cases (h : moreFactors p = .ok q) :
    (operator? true p.next = none ∧ q = p) ∨
    ∃ op d r s, operator? true p.next = some (op, d) ∧ factor d.1 = .ok r ∧
      Extends s p op r ∧ moreFactors s = .ok q := by
  rw [moreFactors] at h
  split at h
  · next hop => exact .inl ⟨hop, (Except.ok.inj h).symm⟩
  · next op d hd hop =>
    obtain ⟨r, hr, h⟩ := bind_eq_ok_iff.mp h
    obtain ⟨height, hheight, h⟩ := bind_eq_ok_iff.mp h
    exact .inr ⟨op, ⟨d, hd⟩, r, _, hop, hr, ⟨rfl, hheight, rfl⟩, h⟩

/-- Why no expression is read: its first term is not, or something is wrong with
those after it. -/
theorem expression_error_cases {e : Fault} (h : expression c = .error e) :
    term c = .error e ∨ ∃ p, term c = .ok p ∧ moreTerms p = .error e := by
  rw [expression] at h
  exact bind_eq_error_iff.mp h

/-- A term fails with its first factor, or with what follows it. -/
theorem term_error_cases {e : Fault} (h : term c = .error e) :
    factor c = .error e ∨ ∃ p, factor c = .ok p ∧ moreFactors p = .error e := by
  rw [term] at h
  exact bind_eq_error_iff.mp h

/-- Why a repetition is not read to its end: an operand is not read, makes the tree too high, or
comes before something that is wrong. -/
theorem moreTerms_error_cases {e : Fault} (h : moreTerms p = .error e) :
    ∃ op d, operator? false p.next = some (op, d) ∧
      (term d.1 = .error e ∨ ∃ r, term d.1 = .ok r ∧
      (e = .tooDeep ∨ ∃ s : Parsed n, Extends s p op r ∧ moreTerms s = .error e)) := by
  rw [moreTerms] at h
  split at h
  · cases h
  · next op d hd hop =>
    refine ⟨op, ⟨d, hd⟩, hop, ?_⟩
    rcases bind_eq_error_iff.mp h with h | ⟨r, hr, h⟩
    · exact .inl h
    refine .inr ⟨r, hr, ?_⟩
    rcases bind_eq_error_iff.mp h with h | ⟨height, hheight, h⟩
    · exact .inl (eq_tooDeep_of_heightAbove h)
    · exact .inr ⟨_, ⟨rfl, hheight, rfl⟩, h⟩

/-- What follows a term fails with an operand, for its height, or later. -/
theorem moreFactors_error_cases {e : Fault} (h : moreFactors p = .error e) :
    ∃ op d, operator? true p.next = some (op, d) ∧
      (factor d.1 = .error e ∨ ∃ r, factor d.1 = .ok r ∧
      (e = .tooDeep ∨ ∃ s : Parsed n, Extends s p op r ∧ moreFactors s = .error e)) := by
  rw [moreFactors] at h
  split at h
  · cases h
  · next op d hd hop =>
    refine ⟨op, ⟨d, hd⟩, hop, ?_⟩
    rcases bind_eq_error_iff.mp h with h | ⟨r, hr, h⟩
    · exact .inl h
    refine .inr ⟨r, hr, ?_⟩
    rcases bind_eq_error_iff.mp h with h | ⟨height, hheight, h⟩
    · exact .inl (eq_tooDeep_of_heightAbove h)
    · exact .inr ⟨_, ⟨rfl, hheight, rfl⟩, h⟩

/-! ## What follows -/

/-- No tighter operator follows a term. -/
theorem operator?_of_moreFactors {n : Nat} {p q : Parsed n} (h : moreFactors p = .ok q) :
    operator? true q.next = none := by
  rcases moreFactors_cases h with ⟨hop, rfl⟩ | ⟨op, d, r, s, -, -, hs, h⟩
  · exact hop
  · have : s.next.rest.length < p.next.rest.length := hs.2.2 ▸ Nat.lt_trans r.shorter d.2
    exact operator?_of_moreFactors h
termination_by p.next.rest.length

/-- Behind a term there is no tight operator. -/
theorem operator?_of_term {c : Cursor} {p : Parsed c.rest.length} (h : term c = .ok p) :
    operator? true p.next = none := by
  obtain ⟨q, -, h⟩ := term_eq_ok_iff.mp h
  exact operator?_of_moreFactors h

/-- Behind an expression there is no operator. -/
theorem operator?_of_moreTerms {n : Nat} {p q : Parsed n} (hp : operator? true p.next = none)
    (h : moreTerms p = .ok q) (tight : Bool) : operator? tight q.next = none := by
  rcases moreTerms_cases h with ⟨hop, rfl⟩ | ⟨op, d, r, s, -, hr, hs, h⟩
  · cases tight with
    | false => exact hop
    | true => exact hp
  · have : s.next.rest.length < p.next.rest.length := hs.2.2 ▸ Nat.lt_trans r.shorter d.2
    exact operator?_of_moreTerms (hs.2.2 ▸ operator?_of_term hr) h tight
termination_by p.next.rest.length

/-- No operator follows an expression. -/
theorem operator?_of_expression {c : Cursor} {p : Parsed c.rest.length}
    (h : expression c = .ok p) (tight : Bool) : operator? tight p.next = none := by
  obtain ⟨q, hq, h⟩ := expression_eq_ok_iff.mp h
  exact operator?_of_moreTerms (operator?_of_term hq) h tight

/-! ## Arguments -/

/-- Arguments are none before a closing parenthesis, or a first one and perhaps
more behind a comma. -/
theorem arguments_eq_ok_iff {p : ParsedList c.rest.length} :
    arguments c = .ok p ↔
      ((leave? c).isSome ∧ p.trees = [] ∧ p.height = 0 ∧ p.next = c) ∨
      (leave? c = none ∧ ∃ q, expression c = .ok q ∧
        ((comma? q.next = none ∧ p.trees = [q.tree] ∧ p.height = q.height ∧ p.next = q.next) ∨
        ∃ after more, comma? q.next = some after ∧ arguments after.1 = .ok more ∧
          p.trees = q.tree :: more.trees ∧ p.height = max q.height more.height ∧
          p.next = more.next)) := by
  rw [arguments]
  constructor
  · intro h
    split at h
    · next hleave =>
      cases h
      exact .inl ⟨hleave, rfl, rfl, rfl⟩
    · next hleave =>
      refine .inr ⟨by simpa using hleave, ?_⟩
      obtain ⟨q, hq, h⟩ := bind_eq_ok_iff.mp h
      refine ⟨q, hq, ?_⟩
      dsimp only at h
      split at h
      · next hcomma =>
        cases h
        exact .inl ⟨hcomma, rfl, rfl, rfl⟩
      · next after hafter hcomma =>
        obtain ⟨more, hmore, h⟩ := bind_eq_ok_iff.mp h
        cases h
        exact .inr ⟨⟨after, hafter⟩, more, hcomma, hmore, rfl, rfl, rfl⟩
  · rintro (⟨hleave, htrees, hheight, hnext⟩ | ⟨hleave, q, hq, h⟩)
    · rw [if_pos hleave]
      exact congrArg Except.ok (ParsedList.ext htrees.symm hheight.symm hnext.symm)
    · rw [if_neg (by simp [hleave])]
      refine bind_eq_ok_iff.mpr ⟨q, hq, ?_⟩
      rcases h with ⟨hcomma, htrees, hheight, hnext⟩ | ⟨after, more, hcomma, hmore, h⟩
      · simp only [hcomma]
        exact congrArg Except.ok (ParsedList.ext htrees.symm hheight.symm hnext.symm)
      · obtain ⟨htrees, hheight, hnext⟩ := h
        simp only [hcomma]
        refine bind_eq_ok_iff.mpr ⟨more, hmore, ?_⟩
        exact congrArg Except.ok (ParsedList.ext htrees.symm hheight.symm hnext.symm)

/-- Why arguments are not read: one of them is not. -/
theorem arguments_error_cases {e : Fault} (h : arguments c = .error e) :
    leave? c = none ∧ (expression c = .error e ∨ ∃ q after, expression c = .ok q ∧
      comma? q.next = some after ∧ arguments after.1 = .error e) := by
  rw [arguments] at h
  split at h
  · cases h
  · next hleave =>
    refine ⟨by simpa using hleave, ?_⟩
    rcases bind_eq_error_iff.mp h with h | ⟨q, hq, h⟩
    · exact .inl h
    dsimp only at h
    split at h
    · cases h
    · next after hafter hcomma =>
      rcases bind_eq_error_iff.mp h with h | ⟨more, -, h⟩
      · exact .inr ⟨q, ⟨after, hafter⟩, hq, hcomma, h⟩
      · cases h

end Cursor

end Formula

end Spreadsheet
