import Mathlib.Logic.Relation
import Spreadsheet.Proofs.Formula.Prefixes
import Spreadsheet.Proofs.Formula.Reading

/-!
# Reading step by step

The rules of the grammar call one another and go round in loops. Here they are taken apart into
single steps, with the calls that are under way on a stack, so that it can be said what holds at
any time, also of tokens that will be refused in the end.

- `Machine.Rule`, `Rule.read`: the rules of the grammar, and what each of them reads.
- `Machine.State`, `Machine.step`, `Machine.run`: a moment of reading, the next one,
  and some number of them.
- `Machine.Moves`, `moves_of_step`: everything that one step can do.
- `potential_of_moves`, `run_of_steps`: each step comes closer to the end, so
  that every run comes to it.
- `Machine.Holds`, `Holds.moves`, `Holds.steps`: what holds at any time; each step keeps it.
- `expression_arrives`, `term_arrives`, `factor_arrives`, `call_arrives`: the steps
  come to what the rules read.
- `Cursor.Kept`, `rules_keep_and_end`: what a rule keeps when it has read a tree, and
  that it comes to an end.
-/

namespace Spreadsheet

namespace Formula

open Grammar Token

namespace Machine

/-! ## Moments of reading -/

/-- A rule of the grammar. -/
inductive Rule where
  | expression
  | term
  | factor
  /-- What stands behind the name of a function. -/
  | call (function : String)

/-- What a rule reads. -/
def Rule.read : Rule → (c : Cursor) → Except Fault (Parsed c.rest.length)
  | expression, c => c.expression
  | term, c => c.term
  | factor, c => c.factor
  | call function, c => c.call function

/-- What is to be done next. -/
inductive Task where
  /-- To begin with a rule. -/
  | read (rule : Rule)
  /-- To look for an operator of the tier behind what was read. -/
  | more (tight : Bool) (left : Tree) (height : Nat)
  /-- To look for an argument behind those that were read. -/
  | list (function : String) (args : List Tree) (highest : Nat)
  /-- To close an argument list. -/
  | close (function : String) (args : List Tree) (highest : Nat)
  /-- To hand what was read to the call that waits for it. -/
  | hand (t : Tree) (height : Nat)

/-- A call under way, by what it waits for. -/
inductive Frame where
  /-- For the first operand of operators of the tier. -/
  | first (tight : Bool)
  /-- For the operand behind an operator. -/
  | operand (op : Operator) (left : Tree) (height : Nat)
  /-- For the expression in a pair of parentheses. -/
  | group
  /-- For one more argument. -/
  | argument (function : String) (args : List Tree) (highest : Nat)

/-- A moment of reading. -/
structure State where
  task : Task
  cursor : Cursor
  /-- The calls under way, the innermost first. -/
  stack : List Frame

/-- The rule for the operands of a tier. -/
def operandRule : Bool → Rule
  | false => .term
  | true => .factor

/-- The first step of a factor. -/
def stepFactor (c : Cursor) (stack : List Frame) : Except Fault State :=
  match c.rest with
  | [] => .error (.unexpectedToken "EOF")
  | a :: rest =>
    match a.kind with
    | .number =>
      match readNumber? a.text with
      | some x => .ok ⟨.hand (.number x) 1, ⟨rest, c.opened⟩, stack⟩
      | none => .error (.invalidNumber a.text)
    | .reference => .ok ⟨.hand (.reference a.text) 1, ⟨rest, c.opened⟩, stack⟩
    | .characters => .ok ⟨.hand (.text a.text) 1, ⟨rest, c.opened⟩, stack⟩
    | .function => .ok ⟨.read (.call a.text), ⟨rest, c.opened⟩, stack⟩
    | .operator =>
      if a.text = "(" then
        (c.enter rest).map fun inside => ⟨.read .expression, inside.1, .group :: stack⟩
      else .error (.unexpectedToken a.text)
    | .formula => .error (.unexpectedToken a.cited)

/-- The first step of a call. -/
def stepCall (function : String) (c : Cursor) (stack : List Frame) : Except Fault State :=
  match c.rest with
  | [] => .error .missingArguments
  | a :: rest =>
    if a.isSymbol "(" then
      (c.enter rest).map fun inside => ⟨.list function [] 0, inside.1, stack⟩
    else .error .missingArguments

/-- The last step of a call. -/
def stepClose (function : String) (args : List Tree) (highest : Nat) (c : Cursor)
    (stack : List Frame) : Except Fault State :=
  match c.leave? with
  | some after =>
    (heightAbove highest).map fun above => ⟨.hand (.call function args) above, after.1, stack⟩
  | none => .error .unclosedArguments

/-- What happens to a tree that is handed to the innermost call. -/
def stepHand (t : Tree) (height : Nat) (c : Cursor) (stack : List Frame) :
    Frame → Except Fault State
  | .first tight => .ok ⟨.more tight t height, c, stack⟩
  | .operand op left leftHeight =>
    (heightAbove (max leftHeight height)).map fun above =>
      ⟨.more op.bindsTightly (.operation op left t) above, c, stack⟩
  | .group =>
    match c.leave? with
    | some after => .ok ⟨.hand t height, after.1, stack⟩
    | none => .error .unclosedGroup
  | .argument function args highest =>
    match c.comma? with
    | some after => .ok ⟨.list function (args ++ [t]) (max highest height), after.1, stack⟩
    | none => .ok ⟨.close function (args ++ [t]) (max highest height), c, stack⟩

/-- The next moment. There is none once a tree is read and no call waits for it. -/
def step : State → Except Fault (Option State)
  | ⟨.read .expression, c, stack⟩ => .ok (some ⟨.read .term, c, .first false :: stack⟩)
  | ⟨.read .term, c, stack⟩ => .ok (some ⟨.read .factor, c, .first true :: stack⟩)
  | ⟨.read .factor, c, stack⟩ => (stepFactor c stack).map some
  | ⟨.read (.call function), c, stack⟩ => (stepCall function c stack).map some
  | ⟨.more tight left height, c, stack⟩ =>
    match c.operator? tight with
    | some (op, after) =>
      .ok (some ⟨.read (operandRule tight), after.1, .operand op left height :: stack⟩)
    | none => .ok (some ⟨.hand left height, c, stack⟩)
  | ⟨.list function args highest, c, stack⟩ =>
    if c.leave?.isSome then .ok (some ⟨.close function args highest, c, stack⟩)
    else .ok (some ⟨.read .expression, c, .argument function args highest :: stack⟩)
  | ⟨.close function args highest, c, stack⟩ =>
    (stepClose function args highest c stack).map some
  | ⟨.hand t height, c, frame :: stack⟩ => (stepHand t height c stack frame).map some
  | ⟨.hand _ _, _, []⟩ => .ok none

/-- What reading comes to within a number of steps, if it comes to an end. -/
def run : Nat → State → Option (Except Fault State)
  | 0, _ => none
  | n + 1, s =>
    match step s with
    | .error e => some (.error e)
    | .ok none => some (.ok s)
    | .ok (some t) => run n t

/-- Before the first step of a rule. -/
def start (rule : Rule) (c : Cursor) : State := ⟨.read rule, c, []⟩

/-- When a tree is read, and the given calls wait for it. -/
def handed {n : Nat} (stack : List Frame) (p : Parsed n) : State :=
  ⟨.hand p.tree p.height, p.next, stack⟩

/-! ## What a step can do -/

/-- Everything that one step can do. -/
inductive Moves : State → State → Prop
  | expression (c : Cursor) (stack : List Frame) :
      Moves ⟨.read .expression, c, stack⟩ ⟨.read .term, c, .first false :: stack⟩
  | term (c : Cursor) (stack : List Frame) :
      Moves ⟨.read .term, c, stack⟩ ⟨.read .factor, c, .first true :: stack⟩
  | leaf {c : Cursor} {a : Token} {t : Tree} {rest : List Token} (stack : List Frame)
      (hrest : c.rest = a :: rest) (ha : Leaf a t) :
      Moves ⟨.read .factor, c, stack⟩ ⟨.hand t 1, ⟨rest, c.opened⟩, stack⟩
  | name {c : Cursor} {a : Token} {rest : List Token} (stack : List Frame)
      (hrest : c.rest = a :: rest) (ha : a.kind = .function) :
      Moves ⟨.read .factor, c, stack⟩ ⟨.read (.call a.text), ⟨rest, c.opened⟩, stack⟩
  | group {c : Cursor} {rest : List Token} (stack : List Frame)
      (hrest : c.rest = opening :: rest) (hopened : c.opened + 1 ≤ depthLimit) :
      Moves ⟨.read .factor, c, stack⟩ ⟨.read .expression, ⟨rest, c.opened + 1⟩, .group :: stack⟩
  | call {c : Cursor} {rest : List Token} (function : String) (stack : List Frame)
      (hrest : c.rest = opening :: rest) (hopened : c.opened + 1 ≤ depthLimit) :
      Moves ⟨.read (.call function), c, stack⟩
        ⟨.list function [] 0, ⟨rest, c.opened + 1⟩, stack⟩
  | operator {c : Cursor} {op : Operator} {rest : List Token} (left : Tree) (height : Nat)
      (stack : List Frame) (hrest : c.rest = ofOperator op :: rest) :
      Moves ⟨.more op.bindsTightly left height, c, stack⟩
        ⟨.read (operandRule op.bindsTightly), ⟨rest, c.opened⟩,
          .operand op left height :: stack⟩
  | noOperator (tight : Bool) (left : Tree) (height : Nat) (c : Cursor) (stack : List Frame) :
      Moves ⟨.more tight left height, c, stack⟩ ⟨.hand left height, c, stack⟩
  | argument (function : String) (args : List Tree) (highest : Nat) (c : Cursor)
      (stack : List Frame) :
      Moves ⟨.list function args highest, c, stack⟩
        ⟨.read .expression, c, .argument function args highest :: stack⟩
  | noArgument (function : String) (args : List Tree) (highest : Nat) (c : Cursor)
      (stack : List Frame) :
      Moves ⟨.list function args highest, c, stack⟩ ⟨.close function args highest, c, stack⟩
  | close {c : Cursor} {rest : List Token} (function : String) (args : List Tree)
      (highest : Nat) (stack : List Frame) (hrest : c.rest = closing :: rest) :
      Moves ⟨.close function args highest, c, stack⟩
        ⟨.hand (.call function args) (highest + 1), ⟨rest, c.opened - 1⟩, stack⟩
  | first (tight : Bool) (t : Tree) (height : Nat) (c : Cursor) (stack : List Frame) :
      Moves ⟨.hand t height, c, .first tight :: stack⟩ ⟨.more tight t height, c, stack⟩
  | operation (op : Operator) (left t : Tree) (leftHeight height : Nat) (c : Cursor)
      (stack : List Frame) :
      Moves ⟨.hand t height, c, .operand op left leftHeight :: stack⟩
        ⟨.more op.bindsTightly (.operation op left t) (max leftHeight height + 1), c, stack⟩
  | leave {c : Cursor} {rest : List Token} (t : Tree) (height : Nat) (stack : List Frame)
      (hrest : c.rest = closing :: rest) :
      Moves ⟨.hand t height, c, .group :: stack⟩ ⟨.hand t height, ⟨rest, c.opened - 1⟩, stack⟩
  | comma {c : Cursor} {rest : List Token} (function : String) (args : List Tree)
      (highest : Nat) (t : Tree)
      (height : Nat) (stack : List Frame) (hrest : c.rest = Token.comma :: rest) :
      Moves ⟨.hand t height, c, .argument function args highest :: stack⟩
        ⟨.list function (args ++ [t]) (max highest height), ⟨rest, c.opened⟩, stack⟩
  | noComma (function : String) (args : List Tree) (highest : Nat) (t : Tree)
      (height : Nat) (c : Cursor) (stack : List Frame) :
      Moves ⟨.hand t height, c, .argument function args highest :: stack⟩
        ⟨.close function (args ++ [t]) (max highest height), c, stack⟩

section

variable {c : Cursor} {stack : List Frame} {s : State}

/-- A factor begins with a leaf, a name or an opening parenthesis, and with nothing else. -/
theorem moves_of_stepFactor (h : stepFactor c stack = .ok s) :
    Moves ⟨.read .factor, c, stack⟩ s := by
  unfold stepFactor at h
  split at h
  · cases h
  · next a rest hrest =>
    obtain ⟨kind, text⟩ := a
    cases kind with
    | number =>
      dsimp only at h
      split at h
      · next x hx =>
        cases h
        exact .leaf stack hrest (.number hx)
      · cases h
    | reference =>
      cases h
      exact .leaf stack hrest (.reference text)
    | characters =>
      cases h
      exact .leaf stack hrest (.characters text)
    | function =>
      cases h
      exact .name stack hrest rfl
    | operator =>
      dsimp only at h
      split at h
      · next htext =>
        subst htext
        obtain ⟨inside, henter, rfl⟩ := map_eq_ok_iff.mp h
        obtain ⟨hopened, hinside⟩ := Cursor.enter_eq_ok_iff.mp henter
        rw [hinside]
        exact .group stack hrest hopened
      · cases h
    | formula => cases h

/-- The arguments of a call begin with an opening parenthesis. -/
theorem moves_of_stepCall {function : String} (h : stepCall function c stack = .ok s) :
    Moves ⟨.read (.call function), c, stack⟩ s := by
  unfold stepCall at h
  split at h
  · cases h
  · next a rest hrest =>
    split at h
    · next ha =>
      obtain rfl : a = opening := eq_of_beq ha
      obtain ⟨inside, henter, rfl⟩ := map_eq_ok_iff.mp h
      obtain ⟨hopened, hinside⟩ := Cursor.enter_eq_ok_iff.mp henter
      rw [hinside]
      exact .call function stack hrest hopened
    · cases h

/-- A call under way is at its end once a parenthesis closes it. -/
theorem moves_of_stepClose {function : String} {args : List Tree} {highest : Nat}
    (h : stepClose function args highest c stack = .ok s) :
    Moves ⟨.close function args highest, c, stack⟩ s := by
  unfold stepClose at h
  split at h
  · next after hleave =>
    obtain ⟨above, habove, rfl⟩ := map_eq_ok_iff.mp h
    obtain ⟨-, rfl⟩ := heightAbove_eq_ok_iff.mp habove
    obtain ⟨rest, hrest, hafter⟩ := Cursor.leave?_eq_some_iff.mp hleave
    rw [hafter]
    exact .close function args highest stack hrest
  · cases h

/-- What becomes of a tree that has been read is up to the call that waits for it. -/
theorem moves_of_stepHand {t : Tree} {height : Nat} {frame : Frame}
    (h : stepHand t height c stack frame = .ok s) :
    Moves ⟨.hand t height, c, frame :: stack⟩ s := by
  cases frame with
  | first tight =>
    cases h
    exact .first tight t height c stack
  | operand op left leftHeight =>
    obtain ⟨above, habove, rfl⟩ := map_eq_ok_iff.mp h
    obtain ⟨-, rfl⟩ := heightAbove_eq_ok_iff.mp habove
    exact .operation op left t leftHeight height c stack
  | group =>
    dsimp only [stepHand] at h
    split at h
    · next after hleave =>
      cases h
      obtain ⟨rest, hrest, hafter⟩ := Cursor.leave?_eq_some_iff.mp hleave
      rw [hafter]
      exact .leave t height stack hrest
    · cases h
  | argument function args highest =>
    dsimp only [stepHand] at h
    split at h
    · next after hcomma =>
      cases h
      obtain ⟨rest, hrest, hafter⟩ := Cursor.comma?_eq_some_iff.mp hcomma
      rw [hafter]
      exact .comma function args highest t height stack hrest
    · cases h
      exact .noComma function args highest t height c stack

/-- A step does nothing else. -/
theorem moves_of_step {s t : State} (h : step s = .ok (some t)) : Moves s t := by
  obtain ⟨task, c, stack⟩ := s
  cases task with
  | read rule =>
    cases rule with
    | expression =>
      cases h
      exact .expression c stack
    | term =>
      cases h
      exact .term c stack
    | factor =>
      obtain ⟨s, hs, hst⟩ := map_eq_ok_iff.mp h
      cases hst
      exact moves_of_stepFactor hs
    | call function =>
      obtain ⟨s, hs, hst⟩ := map_eq_ok_iff.mp h
      cases hst
      exact moves_of_stepCall hs
  | more tight left height =>
    dsimp only [step] at h
    split at h
    · next op after hop =>
      cases h
      obtain ⟨rfl, rest, hrest, hafter⟩ := Cursor.operator?_eq_some_iff.mp hop
      rw [hafter]
      exact .operator left height stack hrest
    · cases h
      exact .noOperator tight left height c stack
  | list function args highest =>
    dsimp only [step] at h
    split at h
    · cases h
      exact .noArgument function args highest c stack
    · cases h
      exact .argument function args highest c stack
  | close function args highest =>
    obtain ⟨s, hs, hst⟩ := map_eq_ok_iff.mp h
    cases hst
    exact moves_of_stepClose hs
  | hand t height =>
    cases stack with
    | nil => cases h
    | cons frame stack =>
      obtain ⟨s, hs, hst⟩ := map_eq_ok_iff.mp h
      cases hst
      exact moves_of_stepHand hs

end

/-! ## Each step comes closer to the end -/

/-- What calls count for together. -/
def Frame.total (count : Frame → Nat) : List Frame → Nat
  | [] => 0
  | f :: stack => count f + total count stack

/-- How many steps may follow before the next token is gone past, at most. -/
def Rule.weight : Rule → Nat
  | expression => 6
  | term => 3
  | factor | call _ => 0

/-- How many steps may follow before the next token is gone past, at most. -/
def Task.weight : Task → Nat
  | read rule => rule.weight
  | more .. => 1
  | list .. => 8
  | close .. | hand .. => 0

/-- How many steps a call may take when a tree is handed to it, at most, before the
next token is gone past. -/
def Frame.weight : Frame → Nat
  | first _ | operand .. => 2
  | group => 0
  | argument .. => 1

/-- What every step lowers. A token is worth as many steps as lie between two of
them at most. -/
def State.potential (s : State) : Nat :=
  9 * s.cursor.rest.length + s.task.weight + Frame.total Frame.weight s.stack

/-- An operand takes three steps at most before a token is gone past. -/
theorem Rule.weight_operandRule_le (tight : Bool) : (operandRule tight).weight ≤ 3 := by
  cases tight <;> decide

/-- Each move lowers the potential, so that there are no more moves than it is high. -/
theorem potential_of_moves {s t : State} (h : Moves s t) : t.potential < s.potential := by
  cases h with
  | @operator c op rest left height stack hrest =>
    have := Rule.weight_operandRule_le op.bindsTightly
    simp only [State.potential, Task.weight, Frame.weight, Frame.total, hrest, List.length_cons]
    omega
  | expression | term | noOperator | argument | noArgument | first | operation | noComma =>
    simp only [State.potential, Task.weight, Rule.weight, Frame.weight, Frame.total]
    omega
  | leaf _ hrest | name _ hrest | group _ hrest | call _ _ hrest | close _ _ _ _ hrest
  | leave _ _ _ hrest
  | comma _ _ _ _ _ _ hrest =>
    simp only [State.potential, Task.weight, Rule.weight, Frame.weight, Frame.total, hrest,
      List.length_cons]
    omega

/-- Some number of steps. -/
abbrev Steps : State → State → Prop := Relation.ReflTransGen fun s t => step s = .ok (some t)

/-- Steps are gone through by a run that is long enough, and are not all of it. -/
theorem run_of_steps {s t : State} (h : Steps s t) {n : Nat} (hn : s.potential < n) :
    ∃ m, run n s = run (m + 1) t := by
  induction h using Relation.ReflTransGen.head_induction_on generalizing n with
  | refl =>
    obtain ⟨m, rfl⟩ := Nat.exists_eq_add_one_of_ne_zero (Nat.ne_zero_of_lt hn)
    exact ⟨m, rfl⟩
  | @head s s' hstep _ ih =>
    obtain ⟨m, rfl⟩ := Nat.exists_eq_add_one_of_ne_zero (Nat.ne_zero_of_lt hn)
    have hlower := potential_of_moves (moves_of_step hstep)
    obtain ⟨k, hk⟩ := ih (n := m) (by omega)
    refine ⟨k, ?_⟩
    rw [run, hstep]
    exact hk

/-! ## What holds at any time -/

/-- How many parentheses are open for a call. -/
def Frame.levels : Frame → Nat
  | first _ | operand .. => 0
  | group | argument .. => 1

/-- How many parentheses are open for a task itself. -/
def Task.levels : Task → Nat
  | list .. | close .. => 1
  | _ => 0

/-- How many parentheses were opened and are not closed. -/
def State.levels (s : State) : Nat := s.task.levels + Frame.total Frame.levels s.stack

/-- The calls that may stand under one another without a parenthesis between them: those for
factors of a term on top of those for terms of an expression. -/
def tierOf : Bool → Nat
  | false => 1
  | true => 2

/-- Where a call stands among those without a parenthesis between them. -/
def Frame.tier : Frame → Nat
  | first tight => tierOf tight
  | operand op .. => tierOf op.bindsTightly
  | group | argument .. => 0

/-- Where the calls must stand that a call is made in. -/
def Frame.outer : Frame → Nat
  | first tight => tierOf tight
  | operand op .. => tierOf op.bindsTightly
  | group | argument .. => 3

/-- Where the calls must stand that wait for what a rule reads. -/
def Rule.tier : Rule → Nat
  | expression => 1
  | term => 2
  | factor | call _ => 3

/-- Where the calls must stand that wait for what a task comes to. -/
def Task.tier : Task → Nat
  | read rule => rule.tier
  | more tight .. => tierOf tight
  | list .. | close .. | hand .. => 3

/-- The calls stand below a tier, and in order. -/
def Stacked : Nat → List Frame → Prop
  | _, [] => True
  | n, f :: stack => f.tier < n ∧ Stacked f.outer stack

theorem tierOf_pos (tight : Bool) : 1 ≤ tierOf tight := by
  cases tight <;> decide

theorem tierOf_le (tight : Bool) : tierOf tight ≤ 3 := by
  cases tight <;> decide

/-- No rule stands higher than an expression. -/
theorem Rule.tier_le (rule : Rule) : rule.tier ≤ 3 := by
  cases rule <;> simp only [tier] <;> omega

theorem Task.tier_le (task : Task) : task.tier ≤ 3 := by
  cases task with
  | read rule => exact rule.tier_le
  | more tight => exact tierOf_le tight
  | list | close | hand => exact Nat.le_refl 3

theorem Frame.outer_pos (f : Frame) : 1 ≤ f.outer := by
  cases f with
  | first tight => exact tierOf_pos tight
  | operand op => exact tierOf_pos op.bindsTightly
  | group | argument => exact Nat.le_add_left 1 2

/-- A call leaves room for those below it, or waits within a parenthesis. -/
theorem Frame.outer_le_tier (f : Frame) : f.outer ≤ 3 * f.levels + f.tier := by
  cases f <;> simp only [outer, levels, tier] <;> omega

/-- Calls that stand in order below a tier do so below every higher one. -/
theorem Stacked.mono {n m : Nat} {stack : List Frame} (h : Stacked n stack) (hle : n ≤ m) :
    Stacked m stack := by
  cases stack with
  | nil => trivial
  | cons f stack => exact ⟨Nat.lt_of_lt_of_le h.1 hle, h.2⟩

/-- At most two calls stand between two that wait within parentheses. -/
theorem Stacked.length_le {n : Nat} {stack : List Frame} (h : Stacked n stack) :
    stack.length ≤ 3 * Frame.total Frame.levels stack + (n - 1) := by
  induction stack generalizing n with
  | nil => exact Nat.zero_le _
  | cons f stack ih =>
    obtain ⟨hf, hstack⟩ := h
    have hbelow := ih hstack
    have houter := f.outer_le_tier
    have hpos := f.outer_pos
    simp only [List.length_cons, Frame.total]
    omega

section

variable {s t : State}

/-- A step goes past one token or none, and never past the mark at the end. -/
theorem passed_of_moves (h : Moves s t) :
    ∃ us, s.cursor.rest = us ++ t.cursor.rest ∧ ∀ a ∈ us, a.isEnd = false := by
  cases h with
  | leaf _ hrest ha =>
    exact ⟨[_], hrest, List.forall_mem_singleton.mpr (isEnd_of_kind ha.kind_ne_formula)⟩
  | name _ hrest ha => exact ⟨[_], hrest, List.forall_mem_singleton.mpr (isEnd_of_function ha)⟩
  | group _ hrest | call _ _ hrest | operator _ _ _ hrest | close _ _ _ _ hrest
  | leave _ _ _ hrest
  | comma _ _ _ _ _ _ hrest =>
    exact ⟨[_], hrest, List.forall_mem_singleton.mpr (isEnd_symbol _)⟩
  | expression | term | noOperator | argument | noArgument | first | operation | noComma =>
    exact ⟨[], rfl, nofun⟩

/-- A step opens or closes a parenthesis together with the call or the task that
it is open for. -/
theorem opened_of_moves (h : Moves s t) {opened : Nat}
    (hs : s.cursor.opened = opened + s.levels) : t.cursor.opened = opened + t.levels := by
  cases h <;>
    simp only [State.levels, Task.levels, Frame.levels, Frame.total] at hs ⊢ <;> omega

/-- A step opens no parenthesis past the limit. -/
theorem opened_le_of_moves (h : Moves s t) (hs : s.cursor.opened ≤ depthLimit) :
    t.cursor.opened ≤ depthLimit := by
  cases h with
  | group _ _ hopened => exact hopened
  | call _ _ _ hopened => exact hopened
  | close | leave => exact Nat.le_trans (Nat.sub_le _ _) hs
  | _ => exact hs

/-- A step leaves the calls in their order. -/
theorem stacked_of_moves (h : Moves s t) (hs : Stacked s.task.tier s.stack) :
    Stacked t.task.tier t.stack := by
  cases h with
  | expression | term => exact ⟨Nat.lt_add_one _, hs⟩
  | group | argument => exact ⟨Nat.zero_lt_one, hs⟩
  | leaf | name | call | noArgument | close => exact hs
  | leave | comma | noComma => exact hs.2
  | @operator c op rest left height stack hrest =>
    refine ⟨?_, hs⟩
    show tierOf op.bindsTightly < (operandRule op.bindsTightly).tier
    cases op.bindsTightly <;> decide
  | noOperator tight => exact hs.mono (tierOf_le tight)
  | first tight => exact hs.2
  | operation op => exact hs.2

end

/-- What holds at any time of reading that began at a place: no mark of an end was gone past;
the parentheses that are open are those that were open there and one for each call that waits
within one, and not too many; and the calls are in order. -/
structure Holds (c : Cursor) (s : State) : Prop where
  passed : ∃ us, c.rest = us ++ s.cursor.rest ∧ ∀ a ∈ us, a.isEnd = false
  opened : s.cursor.opened = c.opened + s.levels
  opened_le : s.cursor.opened ≤ depthLimit
  stacked : Stacked s.task.tier s.stack

namespace Holds

variable {c : Cursor} {s t : State}

/-- A reading that starts with nothing waiting meets the invariant. -/
theorem start (rule : Rule) (hc : c.opened ≤ depthLimit) : Holds c (start rule c) where
  passed := ⟨[], rfl, nofun⟩
  opened := rfl
  opened_le := hc
  stacked := trivial

/-- One move keeps the invariant. -/
theorem moves (hs : Holds c s) (h : Moves s t) : Holds c t where
  passed := by
    obtain ⟨us, hus, hends⟩ := hs.passed
    obtain ⟨vs, hvs, hmore⟩ := passed_of_moves h
    refine ⟨us ++ vs, ?_, List.forall_mem_append.mpr ⟨hends, hmore⟩⟩
    rw [hus, hvs, List.append_assoc]
  opened := opened_of_moves h hs.opened
  opened_le := opened_le_of_moves h hs.opened_le
  stacked := stacked_of_moves h hs.stacked

/-- So do any number of moves, by induction on them. -/
theorem steps (hs : Holds c s) (h : Steps s t) : Holds c t := by
  induction h with
  | refl => exact hs
  | tail _ hstep ih => exact ih.moves (moves_of_step hstep)

/-- No more than three calls are under way for each parenthesis that is open. -/
theorem length_stack_le (hs : Holds c s) : s.stack.length ≤ 3 * s.levels + 2 := by
  have hlength := hs.stacked.length_le
  have htier := Task.tier_le s.task
  rw [State.levels]
  omega

end Holds

/-! ## The steps come to what the rules read -/

/-- The steps come to the given moment, or to one behind which the given fault is found. -/
def Arrives (s : State) : Except Fault State → Prop
  | .ok t => Steps s t
  | .error e => ∃ t, Steps s t ∧ step t = .error e

namespace Arrives

variable {s t : State} {result : Except Fault State}

/-- What is reached from a later state is reached from an earlier one. -/
theorem after (h : Steps s t) (k : Arrives t result) : Arrives s result := by
  cases result with
  | ok u => exact h.trans k
  | error e =>
    obtain ⟨u, hu, herror⟩ := k
    exact ⟨u, h.trans hu, herror⟩

/-- The first move may be taken apart from the others. -/
theorem next (h : step s = .ok (some t)) (k : Arrives t result) : Arrives s result :=
  .after (.single h) k

theorem one (h : step s = .ok (some t)) : Arrives s (.ok t) := Relation.ReflTransGen.single h

/-- A machine that stops with a fault has reached it. -/
theorem refused {e : Fault} (h : step s = .error e) : Arrives s (.error e) := ⟨s, .refl, h⟩

variable {α β : Type} {x : Except Fault α} {f : α → State} {g : α → Except Fault β}
  {k : β → State}

/-- Two computations, one after the other. -/
theorem bind (hx : Arrives s (x.map f)) (hg : ∀ a, Arrives (f a) ((g a).map k)) :
    Arrives s ((x >>= g).map k) := by
  cases x with
  | error e => exact hx
  | ok a => exact .after hx (hg a)

/-- One step, and a computation after it. -/
theorem bind_step (hx : step s = (x.map f).map some) (hg : ∀ a, Arrives (f a) ((g a).map k)) :
    Arrives s ((x >>= g).map k) := by
  cases x with
  | error e => exact .refused hx
  | ok a => exact .next hx (hg a)

end Arrives

section

variable {n : Nat} {tight : Bool} {p : Parsed n}

/-- A loop over operators goes one round: the operand behind the operator is read, and the loop
goes on with the operation, if it is not too high. -/
theorem round_arrives {op : Operator} {d : { d : Cursor // d.rest.length < p.next.rest.length }}
    (stack : List Frame) (hop : p.next.operator? tight = some (op, d))
    {operand : Except Fault (Parsed d.1.rest.length)}
    {loop : Parsed n → Except Fault (Parsed n)}
    (hoperand : ∀ stack,
        Arrives ⟨.read (operandRule tight), d.1, stack⟩ (operand.map (handed stack)))
    (hloop : ∀ q : Parsed n, q.next.rest.length < p.next.rest.length →
      Arrives ⟨.more tight q.tree q.height, q.next, stack⟩ ((loop q).map (handed stack))) :
    Arrives ⟨.more tight p.tree p.height, p.next, stack⟩ ((do
      let r ← operand
      let above ← heightAbove (max p.height r.height)
      loop ⟨.operation op p.tree r.tree, above, r.next,
        Nat.lt_trans (Nat.lt_trans r.shorter d.2) p.shorter⟩).map (handed stack)) := by
  obtain ⟨rfl, -⟩ := Cursor.operator?_eq_some_iff.mp hop
  have hstep : step ⟨.more op.bindsTightly p.tree p.height, p.next, stack⟩ =
      .ok (some ⟨.read (operandRule op.bindsTightly), d.1,
        .operand op p.tree p.height :: stack⟩) := by
    rw [step, hop]
  refine .next hstep (.bind (hoperand _) fun r => ?_)
  refine .bind_step (f := fun above =>
    ⟨.more op.bindsTightly (.operation op p.tree r.tree) above, r.next, stack⟩)
    rfl fun above => ?_
  exact hloop ⟨.operation op p.tree r.tree, above, r.next, _⟩ (Nat.lt_trans r.shorter d.2)

/-- A loop over operators ends where none follows. -/
theorem arrives_of_none (stack : List Frame) (hop : p.next.operator? tight = none) :
    Arrives ⟨.more tight p.tree p.height, p.next, stack⟩ (.ok (handed stack p)) := by
  refine .one ?_
  rw [step, hop]
  rfl

end

-- the proofs recurse as the functions do
mutual

/-- An expression is a term and what follows it. -/
theorem expression_arrives (c : Cursor) (stack : List Frame) :
    Arrives ⟨.read .expression, c, stack⟩ (c.expression.map (handed stack)) := by
  rw [Cursor.expression]
  refine .next rfl (.bind (term_arrives c (.first false :: stack)) fun p => ?_)
  have := p.shorter
  exact .next rfl (moreTerms_arrives p stack)
termination_by (c.rest.length, 2)

/-- What follows a term is read as by the function, operator by operator. -/
theorem moreTerms_arrives {n : Nat} (p : Parsed n) (stack : List Frame) :
    Arrives ⟨.more false p.tree p.height, p.next, stack⟩
      ((Cursor.moreTerms p).map (handed stack)) := by
  cases hop : p.next.operator? false with
  | none =>
    rw [Cursor.moreTerms_of_none hop]
    exact arrives_of_none stack hop
  | some x =>
    obtain ⟨op, d⟩ := x
    rw [Cursor.moreTerms, hop]
    have := d.2
    exact round_arrives stack hop (term_arrives d.1) fun q hq => moreTerms_arrives q stack
termination_by (p.next.rest.length, 3)

/-- A term is a factor and what follows it. -/
theorem term_arrives (c : Cursor) (stack : List Frame) :
    Arrives ⟨.read .term, c, stack⟩ (c.term.map (handed stack)) := by
  rw [Cursor.term]
  refine .next rfl (.bind (factor_arrives c (.first true :: stack)) fun p => ?_)
  have := p.shorter
  exact .next rfl (moreFactors_arrives p stack)
termination_by (c.rest.length, 1)

/-- What follows a factor is read as by the function, operator by operator. -/
theorem moreFactors_arrives {n : Nat} (p : Parsed n) (stack : List Frame) :
    Arrives ⟨.more true p.tree p.height, p.next, stack⟩
      ((Cursor.moreFactors p).map (handed stack)) := by
  cases hop : p.next.operator? true with
  | none =>
    rw [Cursor.moreFactors_of_none hop]
    exact arrives_of_none stack hop
  | some x =>
    obtain ⟨op, d⟩ := x
    rw [Cursor.moreFactors, hop]
    have := d.2
    exact round_arrives stack hop (factor_arrives d.1) fun q hq => moreFactors_arrives q stack
termination_by (p.next.rest.length, 3)

/-- A factor is a leaf, an expression in parentheses, or a call. -/
theorem factor_arrives (c : Cursor) (stack : List Frame) :
    Arrives ⟨.read .factor, c, stack⟩ (c.factor.map (handed stack)) := by
  obtain ⟨rest, opened⟩ := c
  cases rest with
  | nil =>
    rw [Cursor.factor]
    exact .refused rfl
  | cons a rest =>
    obtain ⟨kind, text⟩ := a
    rw [Cursor.factor]
    cases kind with
    | number =>
      cases hx : readNumber? text with
      | some x =>
        simp only [hx]
        refine .one ?_
        simp only [step, stepFactor, hx]
        rfl
      | none =>
        simp only [hx]
        refine .refused ?_
        simp only [step, stepFactor, hx]
        rfl
    | reference | characters => exact .one rfl
    | function =>
      exact .next rfl (.bind (call_arrives text ⟨rest, opened⟩ stack) fun p => .refl)
    | operator =>
      dsimp only
      by_cases htext : text = "("
      · rw [if_pos htext]
        refine .bind_step
          (f := fun inside => ⟨.read .expression, inside.1, .group :: stack⟩) ?_ ?_
        · exact congrArg (Except.map some) (if_pos htext)
        rintro ⟨inside, hinside⟩
        have : inside.rest.length < rest.length + 1 := by simp [hinside]
        refine .bind (expression_arrives inside (.group :: stack)) fun p => ?_
        cases hleave : p.next.leave? with
        | none =>
          refine .refused ?_
          simp only [handed, step, stepHand, hleave]
          rfl
        | some after =>
          refine .one ?_
          simp only [handed, step, stepHand, hleave]
          rfl
      · rw [if_neg htext]
        refine .refused ?_
        exact congrArg (Except.map some) (if_neg htext)
    | formula => exact .refused rfl
termination_by (c.rest.length, 0)

/-- A call is a name and arguments in parentheses, and is as high as the highest
of them and one more. -/
theorem call_arrives (function : String) (c : Cursor) (stack : List Frame) :
    Arrives ⟨.read (.call function), c, stack⟩ ((c.call function).map (handed stack)) := by
  obtain ⟨rest, opened⟩ := c
  cases rest with
  | nil =>
    rw [Cursor.call]
    exact .refused rfl
  | cons a rest =>
    rw [Cursor.call]
    dsimp only
    by_cases ha : a.isSymbol "(" = true
    · rw [if_pos ha]
      refine .bind_step (f := fun inside => ⟨.list function [] 0, inside.1, stack⟩) ?_ ?_
      · exact congrArg (Except.map some) (if_pos ha)
      rintro ⟨inside, hinside⟩
      have : inside.rest.length < rest.length + 1 := by simp [hinside]
      refine .bind (arguments_arrives function [] 0 inside stack) fun p => ?_
      rw [List.nil_append, Nat.zero_max]
      cases hleave : p.next.leave? with
      | none =>
        refine .refused ?_
        simp only [step, stepClose, hleave]
        rfl
      | some after =>
        refine .bind_step
          (f := fun above => ⟨.hand (.call function p.trees) above, after.1, stack⟩) ?_
          fun above => .refl
        simp only [step, stepClose, hleave]
    · rw [if_neg ha]
      refine .refused ?_
      exact congrArg (Except.map some) (if_neg ha)
termination_by (c.rest.length, 0)

/-- The arguments that are still to come join those that were read before. -/
theorem arguments_arrives (function : String) (args : List Tree) (highest : Nat) (c : Cursor)
    (stack : List Frame) :
    Arrives ⟨.list function args highest, c, stack⟩ (c.arguments.map fun p =>
      ⟨.close function (args ++ p.trees) (max highest p.height), p.next, stack⟩) := by
  rw [Cursor.arguments]
  by_cases hleave : c.leave?.isSome = true
  · rw [if_pos hleave]
    refine .one ?_
    simp only [step, if_pos hleave, List.append_nil, Nat.max_zero]
  · rw [if_neg hleave]
    have hstep : step ⟨.list function args highest, c, stack⟩ =
        .ok (some ⟨.read .expression, c, .argument function args highest :: stack⟩) :=
          if_neg hleave
    refine .next hstep (.bind (expression_arrives c _) fun p => ?_)
    cases hcomma : p.next.comma? with
    | none =>
      refine .one ?_
      simp only [handed, step, stepHand, hcomma]
      rfl
    | some after =>
      have : after.1.rest.length < c.rest.length := Nat.lt_trans after.2 p.shorter
      refine .next (t :=
        ⟨.list function (args ++ [p.tree]) (max highest p.height), after.1, stack⟩) ?_ ?_
      · simp only [handed, step, stepHand, hcomma]
        rfl
      refine .bind (arguments_arrives function _ _ after.1 stack) fun more => ?_
      -- the trees and heights of the loop are those of the recursion, grouped the other way
      rw [List.append_assoc, Nat.max_assoc]
      exact .refl
termination_by (c.rest.length, 3)

end

/-- The steps of a rule come to what it reads. -/
theorem rule_arrives (rule : Rule) (c : Cursor) :
    Arrives (start rule c) ((rule.read c).map (handed [])) := by
  cases rule with
  | expression => exact expression_arrives c []
  | term => exact term_arrives c []
  | factor => exact factor_arrives c []
  | call function => exact call_arrives function c []

/-- A machine that has room for as many moves as the potential is high comes to the result. -/
theorem run_of_arrives {s : State} {result : Except Fault State} (h : Arrives s result)
    (hend : ∀ t, result = .ok t → step t = .ok none) {n : Nat} (hn : s.potential < n) :
    run n s = some result := by
  cases result with
  | ok t =>
    obtain ⟨m, hm⟩ := run_of_steps h hn
    rw [hm, run, hend t rfl]
  | error e =>
    obtain ⟨t, hsteps, herror⟩ := h
    obtain ⟨m, hm⟩ := run_of_steps hsteps hn
    rw [hm, run, herror]

/-- A rule comes to an end within a number of steps for each token. -/
theorem run_start (rule : Rule) (c : Cursor) :
    run (9 * c.rest.length + 7) (start rule c) = some ((rule.read c).map (handed [])) := by
  refine run_of_arrives (rule_arrives rule c) (fun t ht => ?_) ?_
  · obtain ⟨p, -, rfl⟩ := map_eq_ok_iff.mp ht
    rfl
  · have hweight : rule.weight ≤ 6 := by
      cases rule <;> simp only [Rule.weight] <;> omega
    show 9 * c.rest.length + rule.weight + 0 < _
    omega

end Machine

/-! ## What a rule keeps -/

namespace Grammar

variable {s t : Standing} {us : List Token}

/-- No step of the grammar is over a mark of the end. -/
theorem Step.isEnd {a : Token} (h : Step s a t) : a.isEnd = false := by
  cases h with
  | leaf ha => exact isEnd_of_kind ha.kind_ne_formula
  | name ha => exact isEnd_of_function ha
  | group ha | arguments ha | noMore ha | operator ha | comma ha | close ha =>
    exact ha ▸ isEnd_symbol _

/-- So no run is. -/
theorem Run.isEnd (h : Run s us t) : ∀ a ∈ us, a.isEnd = false := by
  induction h with
  | nil => exact nofun
  | cons h _ ih => exact List.forall_mem_cons.mpr ⟨h.isEnd, ih⟩

end Grammar

namespace Cursor

/-- What a rule keeps that has read a tree from the given tokens. The cursor stands behind them:
it was moved, not past the end of the tokens nor past the mark of an end. As many parentheses
are open as before, and the height that was counted is the height of the tree. -/
structure Kept (c : Cursor) (us : List Token) {n : Nat} (p : Parsed n) : Prop where
  rest : c.rest = us ++ p.next.rest
  moved : us ≠ []
  no_end : ∀ a ∈ us, a.isEnd = false
  opened : p.next.opened = c.opened
  height : p.height = p.tree.height
  height_pos : 1 ≤ p.height
  height_le : p.height ≤ depthLimit

/-- What a function has read is a run of the grammar, with all that the rules keep. -/
theorem Sound.kept {rule : List Token → Tree → Prop} {c : Cursor} {n : Nat} {p : Parsed n}
    {s t : Standing}
    (h : Sound rule c p) (hst : s ≠ t) (hrun : ∀ us, rule us p.tree → Run s us t) :
    ∃ us, rule us p.tree ∧ Kept c us p := by
  obtain ⟨us, hus, hspan, hheight, hle⟩ := h
  have hmoved : us ≠ [] := by
    rintro rfl
    cases hrun [] hus
    exact hst rfl
  exact ⟨us, hus, hspan.rest, hmoved, (hrun us hus).isEnd, hspan.opened, hheight,
    hheight ▸ p.tree.height_pos, hle⟩

end Cursor

namespace Machine

open Cursor

/-- Each rule of the grammar, wherever it begins with no more parentheses open than may be: if
it reads a tree, it keeps what it should, and a call has gone past its two parentheses. It
comes to an end, by no more steps than there are tokens, nine times over; and at any time
until then as many more parentheses are open as there are calls under way that wait within
one, never fewer than at the beginning and never too many, and besides two no more than three
calls are under way for each of them. -/
theorem rules_keep_and_end (rule : Rule) {c : Cursor} (hc : c.opened ≤ depthLimit) :
    (∀ p, rule.read c = .ok p → ∃ us, Kept c us p ∧
      ∀ function, rule = .call function → ∃ vs, us = opening :: vs ++ [closing] ∧ Balanced vs) ∧
    run (9 * c.rest.length + 7) (start rule c) = some ((rule.read c).map (handed [])) ∧
    ∀ s, Steps (start rule c) s →
      (∃ us, c.rest = us ++ s.cursor.rest ∧ ∀ a ∈ us, a.isEnd = false) ∧
      s.cursor.opened = c.opened + s.levels ∧ s.cursor.opened ≤ depthLimit ∧
      s.stack.length ≤ 3 * s.levels + 2 := by
  refine ⟨fun p hp => ?_, run_start rule c, fun s hs => ?_⟩
  · have hstart : (⟨.operand false, []⟩ : Standing) ≠ ⟨.ended, []⟩ := nofun
    cases rule with
    | expression =>
      obtain ⟨us, -, hkept⟩ :=
        (expression_sound hc hp).kept hstart fun us hus => hus.run false []
      exact ⟨us, hkept, nofun⟩
    | term =>
      obtain ⟨us, -, hkept⟩ := (term_sound hc hp).kept hstart fun us hus => hus.run false []
      exact ⟨us, hkept, nofun⟩
    | factor =>
      obtain ⟨us, -, hkept⟩ := (factor_sound hc hp).kept hstart fun us hus => hus.run false []
      exact ⟨us, hkept, nofun⟩
    | call function =>
      have hname : (⟨.name, []⟩ : Standing) ≠ ⟨.ended, []⟩ := nofun
      obtain ⟨us, ⟨vs, args, hus, -, hargs⟩, hkept⟩ :=
        (call_sound hp).kept hname fun us hus => by
        obtain ⟨vs, args, rfl, -, hargs⟩ := hus
        exact .cons (.arguments rfl) (hargs.run [])
      exact ⟨us, hkept, fun _ _ => ⟨vs, hus, hargs.balanced⟩⟩
  · have hholds := (Holds.start rule hc).steps hs
    exact ⟨hholds.passed, hholds.opened, hholds.opened_le, hholds.length_stack_le⟩

/-- The two parentheses of `SUM((A1),)` are the last that may be open, and what stands behind
the mark of the end is not read. -/
theorem rules_keep_and_end_sum :
    let c : Cursor := ⟨[⟨.function, "SUM"⟩, opening, opening, ⟨.reference, "A1"⟩, closing,
      Token.comma, closing, endMark, ⟨.reference, "B1"⟩], 254⟩
    c.opened ≤ depthLimit ∧ ∃ p us, expression c = .ok p ∧ Kept c us p ∧
      p.tree = .call "SUM" [.reference "A1"] ∧ p.height = 2 ∧
      p.next = ⟨[endMark, ⟨.reference, "B1"⟩], 254⟩ := by
  intro c
  have hc : c.opened ≤ depthLimit := by decide
  obtain ⟨hkept, hrun, -⟩ := rules_keep_and_end .expression hc
  have hresult : run (9 * c.rest.length + 7) (start .expression c) =
      some (.ok ⟨.hand (.call "SUM" [.reference "A1"]) 2,
        ⟨[endMark, ⟨.reference, "B1"⟩], 254⟩, []⟩) := rfl
  obtain ⟨p, hp, hhanded⟩ := map_eq_ok_iff.mp (Option.some.inj (hrun.symm.trans hresult))
  obtain ⟨us, hus, -⟩ := hkept p hp
  injection hhanded with htask hnext
  injection htask with htree hheight
  exact ⟨hc, p, us, hp, hus, htree, hheight, hnext⟩

end Machine

end Formula

end Spreadsheet
