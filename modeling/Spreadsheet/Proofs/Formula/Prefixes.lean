import Spreadsheet.Proofs.Formula.Grammar

/-!
# Starts of formulas

Whether tokens are the start of a formula is decided token by token: from what stands
before a token, only the parentheses that are open and whether an operand has just ended
count for what may come next.

- `Grammatical`, `Viable`: the lists of tokens that the grammar derives, and their prefixes.
- `Standing`, `Step`, `Run`: how a list of tokens stands after each of its tokens.
- `Step.unique`, `Run.unique`: tokens leave no choice.
- `Expression.run`: derived tokens are gone through.
- `Parts`, `Parts.step`, `Parts.run`: which parts the tokens up to a standing are made of.
- `grammatical_iff_run`, `viable_iff_run`: formulas and their starts are what
  can be gone through.
- `Nested`, `InnermostOpen`: the last parenthesis that is still open.
-/

namespace Spreadsheet

namespace Formula

namespace Grammar

open Token

/-- The grammar derives a tree from the tokens. -/
def Grammatical (ts : List Token) : Prop := ∃ t, Expression ts t

/-- The tokens can be continued to a list that the grammar derives. -/
def Viable (ts : List Token) : Prop := ∃ more, Grammatical (ts ++ more)

/-! ## Token by token -/

/-- What a parenthesis that opens is there for. -/
inductive Parenthesis where
  /-- It groups an expression. -/
  | group
  /-- It encloses the arguments of a function. -/
  | arguments
deriving DecidableEq, Repr

/-- What may come next. -/
inductive Place where
  /-- An operand, or also the parenthesis that closes an argument list. -/
  | operand (mayClose : Bool)
  /-- The parenthesis that opens an argument list. -/
  | name
  /-- An operator, or what separates or closes: an operand has ended. -/
  | ended
deriving DecidableEq, Repr

/-- How tokens stand at their end. -/
structure Standing where
  place : Place
  /-- The parentheses that are open, the innermost first. -/
  opened : List Parenthesis
deriving DecidableEq, Repr

/-- Before the first token. -/
def Standing.start : Standing := ⟨.operand false, []⟩

/-- After a whole formula. -/
def Standing.finish : Standing := ⟨.ended, []⟩

/-- How tokens stand after one more. -/
inductive Step : Standing → Token → Standing → Prop
  | leaf {mayClose : Bool} {ps : List Parenthesis} {a : Token} {t : Tree} (ha : Leaf a t) :
      Step ⟨.operand mayClose, ps⟩ a ⟨.ended, ps⟩
  | name {mayClose : Bool} {ps : List Parenthesis} {a : Token} (ha : a.kind = .function) :
      Step ⟨.operand mayClose, ps⟩ a ⟨.name, ps⟩
  | group {mayClose : Bool} {ps : List Parenthesis} {a : Token} (ha : a = opening) :
      Step ⟨.operand mayClose, ps⟩ a ⟨.operand false, .group :: ps⟩
  | arguments {ps : List Parenthesis} {a : Token} (ha : a = opening) :
      Step ⟨.name, ps⟩ a ⟨.operand true, .arguments :: ps⟩
  | noMore {ps : List Parenthesis} {a : Token} (ha : a = closing) :
      Step ⟨.operand true, .arguments :: ps⟩ a ⟨.ended, ps⟩
  | operator {ps : List Parenthesis} {a : Token} {op : Operator} (ha : a = ofOperator op) :
      Step ⟨.ended, ps⟩ a ⟨.operand false, ps⟩
  | comma {ps : List Parenthesis} {a : Token} (ha : a = comma) :
      Step ⟨.ended, .arguments :: ps⟩ a ⟨.operand true, .arguments :: ps⟩
  | close {p : Parenthesis} {ps : List Parenthesis} {a : Token} (ha : a = closing) :
      Step ⟨.ended, p :: ps⟩ a ⟨.ended, ps⟩

/-- A token leaves no choice. -/
theorem Step.unique {s t u : Standing} {a : Token} (h : Step s a t) (k : Step s a u) :
    t = u := by
  cases h with
  | leaf ha =>
    cases k with
    | leaf => rfl
    | name hb => exact absurd hb ha.kind_ne_function
    | group hb => exact absurd hb ha.ne_opening
    | noMore hb => exact absurd hb ha.ne_closing
  | name ha =>
    cases k with
    | leaf hb => exact absurd ha hb.kind_ne_function
    | name => rfl
    | group hb => subst hb; cases ha
    | noMore hb => subst hb; cases ha
  | group ha =>
    cases k with
    | leaf hb => exact absurd ha hb.ne_opening
    | name hb => subst ha; cases hb
    | group => rfl
    | noMore hb => exact absurd (ha.symm.trans hb) (by decide)
  | arguments ha =>
    cases k with
    | arguments => rfl
  | noMore ha =>
    cases k with
    | leaf hb => exact absurd ha hb.ne_closing
    | name hb => subst ha; cases hb
    | group hb => exact absurd (hb.symm.trans ha) (by decide)
    | noMore => rfl
  | operator ha =>
    cases k with
    | operator => rfl
    | comma hb => exact absurd (ha.symm.trans hb) (ofOperator_ne_comma _)
    | close hb => exact absurd (ha.symm.trans hb) (ofOperator_ne_closing _)
  | comma ha =>
    cases k with
    | operator hb => exact absurd (hb.symm.trans ha) (ofOperator_ne_comma _)
    | comma => rfl
    | close hb => exact absurd (ha.symm.trans hb) (by decide)
  | close ha =>
    cases k with
    | operator hb => exact absurd (hb.symm.trans ha) (ofOperator_ne_closing _)
    | comma hb => exact absurd (hb.symm.trans ha) (by decide)
    | close => rfl

/-- How tokens stand after several more. -/
inductive Run : Standing → List Token → Standing → Prop
  | nil (s : Standing) : Run s [] s
  | cons {s t u : Standing} {a : Token} {ts : List Token} (h : Step s a t) (k : Run t ts u) :
      Run s (a :: ts) u

namespace Run

variable {s t u : Standing} {a : Token} {us vs : List Token}

theorem single (h : Step s a t) : Run s [a] t := .cons h (.nil t)

/-- Runs follow each other. -/
theorem append (h : Run s us t) (k : Run t vs u) : Run s (us ++ vs) u := by
  induction h with
  | nil => exact k
  | cons h _ ih => exact .cons h (ih k)

/-- What can be gone through can be stopped anywhere. -/
theorem split (h : Run s (us ++ vs) u) : ∃ t, Run s us t ∧ Run t vs u := by
  induction us generalizing s with
  | nil => exact ⟨s, .nil s, h⟩
  | cons a us ih =>
    cases h with
    | cons h k =>
      obtain ⟨t, hus, hvs⟩ := ih k
      exact ⟨t, .cons h hus, hvs⟩

/-- Where a run leads is decided by its tokens, so that a reading needs no choice. -/
theorem unique (h : Run s us t) (k : Run s us u) : t = u := by
  induction h with
  | nil =>
    cases k
    rfl
  | cons h _ ih =>
    cases k with
    | cons k ks =>
      obtain rfl := h.unique k
      exact ih ks

/-- Parentheses are open as far as they were not closed. -/
theorem count_opened (h : Run s us t) :
    t.opened.length + us.count closing = s.opened.length + us.count opening := by
  have hne : opening ≠ closing := by decide
  induction h with
  | nil => rfl
  | @cons s t u a us h _ ih =>
    have hother (ho : a ≠ opening) (hc : a ≠ closing) (heq : t.opened = s.opened) :
        u.opened.length + (a :: us).count closing =
          s.opened.length + (a :: us).count opening := by
      rw [List.count_cons_of_ne ho, List.count_cons_of_ne hc, ← heq]
      exact ih
    cases h with
    | leaf ha => exact hother ha.ne_opening ha.ne_closing rfl
    | name ha => exact hother (ne_of_kind ha nofun) (ne_of_kind ha nofun) rfl
    | operator ha =>
      exact hother (ha ▸ ofOperator_ne_opening _) (ha ▸ ofOperator_ne_closing _) rfl
    | comma ha => exact hother (ha ▸ by decide) (ha ▸ by decide) rfl
    | group ha | arguments ha =>
      subst ha
      rw [List.count_cons_self, List.count_cons_of_ne hne]
      simp only [List.length_cons] at ih ⊢
      omega
    | noMore ha | close ha =>
      subst ha
      rw [List.count_cons_self, List.count_cons_of_ne hne.symm]
      simp only [List.length_cons] at ih ⊢
      omega

end Run

/-! ## What is derived is gone through -/

mutual

/-- The tokens of an expression are an operand, wherever they stand. -/
theorem Expression.run {ts : List Token} {t : Tree} :
    Expression ts t → ∀ mayClose ps, Run ⟨.operand mayClose, ps⟩ ts ⟨.ended, ps⟩
  | .term h, mayClose, ps => h.run mayClose ps
  | .operation _ h _ k, mayClose, ps =>
    (h.run mayClose ps).append (.cons (.operator rfl) (k.run false ps))

/-- A term ends an operand that is expected, whatever is open around it. -/
theorem Term.run {ts : List Token} {t : Tree} :
    Term ts t → ∀ mayClose ps, Run ⟨.operand mayClose, ps⟩ ts ⟨.ended, ps⟩
  | .factor h, mayClose, ps => h.run mayClose ps
  | .operation _ h _ k, mayClose, ps =>
    (h.run mayClose ps).append (.cons (.operator rfl) (k.run false ps))

/-- So does a factor. -/
theorem Factor.run {ts : List Token} {t : Tree} :
    Factor ts t → ∀ mayClose ps, Run ⟨.operand mayClose, ps⟩ ts ⟨.ended, ps⟩
  | .leaf h, _, _ => .single (.leaf h)
  | .group h, _, ps =>
    .cons (.group rfl) ((h.run false (.group :: ps)).append (.single (.close rfl)))
  | .call h, _, ps => .cons (.name rfl) (.cons (.arguments rfl) (h.run ps))

/-- The tokens of an argument list are gone through together with the
parenthesis that closes it. -/
theorem Arguments.run {ts : List Token} {args : List Tree} :
    Arguments ts args →
    ∀ ps, Run ⟨.operand true, .arguments :: ps⟩ (ts ++ [closing]) ⟨.ended, ps⟩
  | .none, _ => .single (.noMore rfl)
  | .last h, ps => (h.run true (.arguments :: ps)).append (.single (.close rfl))
  | .more h k, ps => by
    rw [List.append_assoc, List.cons_append]
    exact (h.run true (.arguments :: ps)).append (.cons (.comma rfl) (k.run ps))

end

/-! ## What is gone through is derived -/

/-- What stands before an operand, from where its expression starts: nothing, or what an
operator goes on with. -/
inductive Lead : List Token → Prop
  | nothing : Lead []
  | operator {ts : List Token} {t : Tree} (op : Operator) (h : Expression ts t) :
      Lead (ts ++ [ofOperator op])

/-- Arguments, each with a comma after it. -/
inductive Separated : List Token → Prop
  | nothing : Separated []
  | more {us ts : List Token} {t : Tree} (h : Separated us) (k : Expression ts t) :
      Separated (us ++ ts ++ [comma])

/-- What stands before an expression, with the parentheses that are open: the first
parts of expressions, each up to the parenthesis that encloses the next, and
arguments that are complete. -/
inductive Enclosing : List Token → List Parenthesis → Prop
  | top : Enclosing [] []
  | group {front lead : List Token} {ps : List Parenthesis} (h : Enclosing front ps)
      (hlead : Lead lead) : Enclosing (front ++ lead ++ [opening]) (.group :: ps)
  | arguments {front lead done : List Token} {ps : List Parenthesis} (function : String)
      (h : Enclosing front ps) (hlead : Lead lead) (hdone : Separated done) :
      Enclosing (front ++ lead ++ ⟨.function, function⟩ :: opening :: done) (.arguments :: ps)

/-- The parts of which the tokens up to a standing are made. -/
inductive Parts : List Token → Standing → Prop
  | operand {front lead : List Token} {ps : List Parenthesis} (h : Enclosing front ps)
      (hlead : Lead lead) : Parts (front ++ lead) ⟨.operand false, ps⟩
  | argument {front : List Token} {ps : List Parenthesis}
      (h : Enclosing front (.arguments :: ps)) :
      Parts front ⟨.operand true, .arguments :: ps⟩
  | name {front lead : List Token} {ps : List Parenthesis} (function : String)
      (h : Enclosing front ps)
      (hlead : Lead lead) : Parts (front ++ lead ++ [⟨.function, function⟩]) ⟨.name, ps⟩
  | ended {front ts : List Token} {ps : List Parenthesis} {t : Tree} (h : Enclosing front ps)
      (k : Expression ts t) : Parts (front ++ ts) ⟨.ended, ps⟩

/-- An operator of either tier goes on with an expression. -/
theorem Expression.operate {us vs : List Token} {l r : Tree} (op : Operator)
    (h : Expression us l)
    (k : Factor vs r) : ∃ t, Expression (us ++ ofOperator op :: vs) t := by
  cases htight : op.bindsTightly with
  | false => exact ⟨_, .operation op h htight (.factor k)⟩
  | true =>
    cases h with
    | term h => exact ⟨_, .term (.operation op h htight k)⟩
    | operation op' h hloose h' =>
      -- the tighter operator takes the last term only
      have hterm : Expression _ _ := .operation op' h hloose (.operation op h' htight k)
      rw [List.append_assoc]
      exact ⟨_, hterm⟩

/-- What may stand before a factor makes an expression with it. -/
theorem Lead.expression {lead ts : List Token} {t : Tree} (h : Lead lead) (k : Factor ts t) :
    ∃ u, Expression (lead ++ ts) u := by
  cases h with
  | nothing => exact ⟨t, .term (.factor k)⟩
  | operator op h =>
    rw [List.append_assoc]
    exact h.operate op k

/-- Arguments that are complete may be followed by others. -/
theorem Separated.arguments {done ts : List Token} {args : List Tree} (h : Separated done)
    (k : Arguments ts args) : ∃ all, Arguments (done ++ ts) all := by
  induction h generalizing ts args with
  | nothing => exact ⟨args, k⟩
  | more _ hlast ih =>
    rw [List.append_assoc, List.append_assoc, List.singleton_append]
    exact ih (.more hlast k)

/-- The arguments of a function end where an operand ends. -/
theorem Parts.endArguments {front lead done ts : List Token} {ps : List Parenthesis}
    {args : List Tree}
    (function : String) (h : Enclosing front ps) (hlead : Lead lead) (hdone : Separated done)
    (hargs : Arguments ts args) :
    Parts (front ++ lead ++ ⟨.function, function⟩ :: opening :: done ++ ts ++ [closing])
      ⟨.ended, ps⟩ := by
  obtain ⟨all, hall⟩ := hdone.arguments hargs
  have hcall : Factor (⟨.function, function⟩ :: opening :: (done ++ ts) ++ [closing])
      (.call function all) :=
    .call hall
  obtain ⟨t, ht⟩ := hlead.expression hcall
  have hsplit : front ++ lead ++ ⟨.function, function⟩ :: opening :: done ++ ts ++ [closing] =
      front ++ (lead ++ (⟨.function, function⟩ :: opening :: (done ++ ts) ++ [closing])) := by
    simp
  rw [hsplit]
  exact .ended h ht

/-- One more token is one more part, or completes one. -/
theorem Parts.step {us : List Token} {s t : Standing} {a : Token} (h : Parts us s)
    (k : Step s a t) : Parts (us ++ [a]) t := by
  -- before an operand of an argument list stands nothing but the list itself
  have hoperand {mayClose : Bool} {ps : List Parenthesis}
    (h : Parts us ⟨.operand mayClose, ps⟩) :
      ∃ front lead, us = front ++ lead ∧ Enclosing front ps ∧ Lead lead := by
    cases h with
    | operand h hlead => exact ⟨_, _, rfl, h, hlead⟩
    | argument h => exact ⟨us, [], (List.append_nil us).symm, h, .nothing⟩
  cases k with
  | leaf ha =>
    obtain ⟨front, lead, rfl, hfront, hlead⟩ := hoperand h
    obtain ⟨u, hu⟩ := hlead.expression (.leaf ha)
    rw [List.append_assoc]
    exact .ended hfront hu
  | name ha =>
    obtain ⟨front, lead, rfl, hfront, hlead⟩ := hoperand h
    obtain ⟨kind, function⟩ := a
    cases ha
    exact .name function hfront hlead
  | group ha =>
    obtain ⟨front, lead, rfl, hfront, hlead⟩ := hoperand h
    subst ha
    have hgroup := Parts.operand (hfront.group hlead) .nothing
    rwa [List.append_nil] at hgroup
  | arguments ha =>
    subst ha
    cases h with
    | name function hfront hlead =>
      rw [List.append_assoc]
      exact .argument (hfront.arguments function hlead .nothing)
  | noMore ha =>
    subst ha
    cases h with
    | argument h =>
      cases h with
      | arguments function h hlead hdone =>
        have hend := Parts.endArguments function h hlead hdone .none
        rwa [List.append_nil] at hend
  | operator ha =>
    subst ha
    cases h with
    | ended h hlast =>
      rw [List.append_assoc]
      exact .operand h (.operator _ hlast)
  | comma ha =>
    subst ha
    cases h with
    | ended h hlast =>
      cases h with
      | arguments function h hlead hdone =>
        have hmore := Parts.argument (h.arguments function hlead (hdone.more hlast))
        simpa using hmore
  | close ha =>
    subst ha
    cases h with
    | ended h hlast =>
      cases h with
      | group h hlead =>
        obtain ⟨u, hu⟩ := hlead.expression (.group hlast)
        have hended := Parts.ended h hu
        simpa using hended
      | arguments function h hlead hdone =>
        exact .endArguments function h hlead hdone (.last hlast)

/-- What has been read is told apart further by each step of a run. -/
theorem Parts.run {us vs : List Token} {s t : Standing} (h : Parts us s) (k : Run s vs t) :
    Parts (us ++ vs) t := by
  induction k generalizing us with
  | nil => rwa [List.append_nil]
  | cons hstep _ ih =>
    have hlonger := ih (h.step hstep)
    rwa [List.append_assoc] at hlonger

/-- So all that has been read from the start is told apart. -/
theorem parts_of_run {us : List Token} {s : Standing} (h : Run .start us s) : Parts us s := by
  have hstart : Parts [] .start := .operand .top .nothing
  exact hstart.run h

/-! ## Formulas and their starts -/

/-- The tokens that the grammar derives are those that are gone through to the
end of a formula. -/
theorem grammatical_iff_run {ts : List Token} : Grammatical ts ↔ Run .start ts .finish := by
  constructor
  · rintro ⟨t, h⟩
    exact h.run false []
  · intro h
    cases parts_of_run h with
    | ended henclosing k =>
      cases henclosing
      exact ⟨_, k⟩

/-- All that is open can be closed. -/
theorem exists_run_of_ended (ps : List Parenthesis) : ∃ ts, Run ⟨.ended, ps⟩ ts .finish := by
  induction ps with
  | nil => exact ⟨[], .nil _⟩
  | cons p ps ih =>
    obtain ⟨ts, hts⟩ := ih
    exact ⟨closing :: ts, .cons (.close rfl) hts⟩

/-- From everywhere a formula can be completed. -/
theorem exists_run_finish (s : Standing) : ∃ ts, Run s ts .finish := by
  obtain ⟨place, ps⟩ := s
  obtain ⟨ts, hts⟩ := exists_run_of_ended ps
  cases place with
  | operand mayClose => exact ⟨⟨.reference, "A1"⟩ :: ts, .cons (.leaf (.reference "A1")) hts⟩
  | name => exact ⟨opening :: closing :: ts, .cons (.arguments rfl) (.cons (.noMore rfl) hts)⟩
  | ended => exact ⟨ts, hts⟩

/-- The starts of formulas are what can be gone through. -/
theorem viable_iff_run {ts : List Token} : Viable ts ↔ ∃ s, Run .start ts s := by
  constructor
  · rintro ⟨more, h⟩
    obtain ⟨s, hs, -⟩ := (grammatical_iff_run.mp h).split
    exact ⟨s, hs⟩
  · rintro ⟨s, hs⟩
    obtain ⟨more, hmore⟩ := exists_run_finish s
    exact ⟨more, grammatical_iff_run.mpr (hs.append hmore)⟩

/-! ## Parentheses that are open -/

/-- Every parenthesis that is closed within the tokens was opened before, and all that
are opened are closed. -/
def Nested (ts : List Token) : Prop :=
  Balanced ts ∧ ∀ us, us <+: ts → us.count closing ≤ us.count opening

/-- The last parenthesis that is still open at the end of the tokens stands after `front`,
and `inside` follows it. -/
def InnermostOpen (ts front inside : List Token) : Prop :=
  ts = front ++ opening :: inside ∧ Nested inside

/-- The last token is the name of a function. -/
def EndsInName (ts : List Token) : Prop := ∃ function, ts.getLast? = some ⟨.function, function⟩

theorem nested_nil : Nested [] := by
  refine ⟨balanced_nil, fun us hus => ?_⟩
  rw [List.prefix_nil.mp hus]
  exact Nat.le_refl 0

theorem nested_comma : Nested [comma] := by
  refine ⟨balanced_comma, fun us hus => ?_⟩
  have hnone : us.count closing ≤ [comma].count closing := hus.sublist.count_le closing
  exact Nat.le_trans hnone (Nat.zero_le _)

/-- Runs without open parentheses follow each other. -/
theorem Nested.append {ts us : List Token} (h : Nested ts) (k : Nested us) :
    Nested (ts ++ us) := by
  refine ⟨h.1.append k.1, fun vs hvs => ?_⟩
  rcases List.prefix_or_prefix_of_prefix hvs (List.prefix_append ts us) with hshort | ⟨ws, rfl⟩
  · exact h.2 vs hshort
  · have hws := k.2 ws ((List.prefix_append_right_inj ts).mp hvs)
    have hts : ts.count opening = ts.count closing := h.1
    rw [List.count_append, List.count_append]
    omega

/-- An expression leaves no parenthesis open. -/
theorem Expression.nested {ts : List Token} {t : Tree} (h : Expression ts t) : Nested ts := by
  refine ⟨h.balanced, ?_⟩
  rintro us ⟨vs, rfl⟩
  obtain ⟨s, hs, -⟩ := (h.run false []).split
  have hcount := hs.count_opened
  simp only [List.length_nil] at hcount
  omega

/-- Arguments that are separated leave none open either. -/
theorem Separated.nested {done : List Token} (h : Separated done) : Nested done := by
  induction h with
  | nothing => exact nested_nil
  | more _ k ih => exact (ih.append k.nested).append nested_comma

/-- The operators, parentheses and commas before an expression are no names of functions. -/
theorem not_endsInName_append_operator {ts : List Token} {a : Token} (ha : a.kind = .operator) :
    ¬ EndsInName (ts ++ [a]) := by
  rintro ⟨function, h⟩
  rw [List.getLast?_concat] at h
  cases h
  cases ha

/-- Arguments that are done end in a comma, if there are any. -/
theorem Separated.eq_nil_or_concat {done : List Token} (h : Separated done) :
    done = [] ∨ ∃ us, done = us ++ [comma] := by
  cases h with
  | nothing => exact .inl rfl
  | more => exact .inr ⟨_, rfl⟩

/-- What encloses a group does not end in the name of a function. -/
theorem Enclosing.not_endsInName {front lead : List Token} {ps : List Parenthesis}
    (h : Enclosing front ps) (hlead : Lead lead) : ¬ EndsInName (front ++ lead) := by
  cases hlead with
  | operator op =>
    rw [← List.append_assoc]
    exact not_endsInName_append_operator rfl
  | nothing =>
    rw [List.append_nil]
    cases h with
    | top => exact fun ⟨_, h⟩ => nomatch h
    | group => exact not_endsInName_append_operator rfl
    | @arguments front lead done ps function h hlead hdone =>
      rcases hdone.eq_nil_or_concat with rfl | ⟨us, rfl⟩
      · have hsplit : front ++ lead ++ [⟨.function, function⟩, opening] =
            front ++ lead ++ [⟨.function, function⟩] ++ [opening] := by simp
        rw [hsplit]
        exact not_endsInName_append_operator rfl
      · have hsplit : front ++ lead ++ ⟨.function, function⟩ :: opening :: (us ++ [comma]) =
            front ++ lead ++ ⟨.function, function⟩ :: opening :: us ++ [comma] := by simp
        rw [hsplit]
        exact not_endsInName_append_operator rfl

/-- An expression has just ended, and it is all that follows a parenthesis that groups. -/
theorem innermostOpen_group {ts : List Token} {ps : List Parenthesis}
    (h : Run .start ts ⟨.ended, .group :: ps⟩) :
    ∃ front inside, InnermostOpen ts front inside ∧ ¬ EndsInName front ∧
      Grammatical inside := by
  cases parts_of_run h with
  | ended henclosing k =>
    cases henclosing with
    | @group front lead ps h hlead =>
      refine ⟨front ++ lead, _, ⟨?_, k.nested⟩, h.not_endsInName hlead, _, k⟩
      rw [List.append_assoc, List.singleton_append]

/-- An expression has just ended, which follows the parenthesis of an argument
list or a comma in it. -/
theorem innermostOpen_arguments {ts : List Token} {ps : List Parenthesis}
    (h : Run .start ts ⟨.ended, .arguments :: ps⟩) :
    ∃ front done last, InnermostOpen ts front (done ++ last) ∧ EndsInName front ∧
      Grammatical last ∧
      (done = [] ∨ ∃ us, done = us ++ [comma]) := by
  cases parts_of_run h with
  | ended henclosing k =>
    cases henclosing with
    | @arguments front lead done ps function h hlead hdone =>
      refine ⟨front ++ lead ++ [⟨.function, function⟩], done, _,
        ⟨?_, hdone.nested.append k.nested⟩,
        ⟨function, List.getLast?_concat⟩, ⟨_, k⟩, hdone.eq_nil_or_concat⟩
      simp

end Grammar

end Formula

end Spreadsheet
