import Spreadsheet.Proofs.Formula.Prefixes
import Spreadsheet.Proofs.Formula.Reading

/-!
# The first token that cannot stand where it does

A fault that blames a token blames the first one with which the tokens are no longer the start
of a formula, or the end of the tokens, if they are the start of a formula and not yet one.

- `Fault.blamesToken`: the faults in question.
- `Grammar.Blocked`, `Grammar.Reports`, `Grammar.StopsAt`: where reading stops,
  and what it reports there.
- `Cursor.expression_stops`, `Cursor.moreTerms_stops`, `Cursor.call_stops` and their like: a
  rule that refuses the tokens stops within them.
- `Grammar.FirstImpossible`, `Fault.Describes`: the place, and what the fault says of it.
- `describes_of_parse`: the faults of `parse`.
-/

namespace Spreadsheet

namespace Formula

open Grammar Token

/-- Is the fault about the place of a token, or about one that is missing? -/
def Fault.blamesToken : Fault → Bool
  | .unexpectedToken _ | .unclosedGroup | .missingArguments | .unclosedArguments => true
  | _ => false

namespace Grammar

/-! ## Where reading stops -/

/-- The first token as faults quote it, or the word for the end. -/
def headText : List Token → String
  | [] => "EOF"
  | a :: _ => a.cited

/-- The next token may not come, or there is none and the formula is not complete. -/
def Blocked (s : Standing) : List Token → Prop
  | [] => s ≠ .finish
  | a :: _ => ∀ t, ¬ Step s a t

/-- What is reported where reading stops before the given tokens. -/
inductive Reports : Standing → List Token → Fault → Prop
  | unexpected (s : Standing) (after : List Token) :
      Reports s after (.unexpectedToken (headText after))
  | missing (ps : List Parenthesis) (after : List Token) :
      Reports ⟨.name, ps⟩ after .missingArguments
  | group (ps : List Parenthesis) (after : List Token) :
      Reports ⟨.ended, .group :: ps⟩ after .unclosedGroup
  | arguments (ps : List Parenthesis) (after : List Token) :
      Reports ⟨.ended, .arguments :: ps⟩ after .unclosedArguments

/-- Reading stops somewhere within the tokens, and reports the fault. -/
def StopsAt (s : Standing) (ts : List Token) (e : Fault) : Prop :=
  ∃ before after t, ts = before ++ after ∧ Run s before t ∧ Blocked t after ∧ Reports t after e

namespace StopsAt

variable {s t : Standing} {a : Token} {us ts : List Token} {e : Fault}

/-- A fault is met at once where the next token is one that cannot come. -/
theorem here (h : Blocked s ts) (k : Reports s ts e) : StopsAt s ts e :=
  ⟨[], ts, s, rfl, .nil s, h, k⟩

/-- What is met behind a run is met from its beginning. -/
theorem after (h : Run s us t) (k : StopsAt t ts e) : StopsAt s (us ++ ts) e := by
  obtain ⟨before, after, u, rfl, hrun, hblocked, hreports⟩ := k
  exact ⟨us ++ before, after, u, (List.append_assoc _ _ _).symm, h.append hrun,
    hblocked, hreports⟩

/-- The same of one step. -/
theorem cons (h : Step s a t) (k : StopsAt t ts e) : StopsAt s (a :: ts) e :=
  k.after (.single h)

end StopsAt

end Grammar

namespace Cursor

variable {c : Cursor}

/-- Nothing goes on with an expression but operators, and what the parentheses
around it allow. -/
theorem blocked_ended {ps : List Parenthesis} (hoperator : ∀ tight, operator? tight c = none)
    (htop : ps = [] → c.rest ≠ []) (hleave : ps ≠ [] → leave? c = none)
    (hcomma : ∀ qs, ps = .arguments :: qs → comma? c = none) : Blocked ⟨.ended, ps⟩ c.rest := by
  cases hrest : c.rest with
  | nil =>
    intro h
    exact htop (congrArg Standing.opened h) hrest
  | cons a rest =>
    have hlt : rest.length < c.rest.length := by simp [hrest]
    intro t h
    cases h with
    | @operator _ _ op ha =>
      have hsome : operator? op.bindsTightly c = some (op, ⟨⟨rest, c.opened⟩, hlt⟩) :=
        operator?_eq_some_iff.mpr ⟨rfl, rest, ha ▸ hrest, rfl⟩
      exact nomatch hsome.symm.trans (hoperator _)
    | comma ha =>
      have hsome : comma? c = some ⟨⟨rest, c.opened⟩, hlt⟩ :=
        comma?_eq_some_iff.mpr ⟨rest, ha ▸ hrest, rfl⟩
      exact nomatch hsome.symm.trans (hcomma _ rfl)
    | close ha =>
      obtain ⟨d, hsome, -⟩ := leave?_closing (ha ▸ hrest)
      exact nomatch hsome.symm.trans (hleave (List.cons_ne_nil _ _))

/-- A token that starts no operand is in the way of one. -/
theorem blocked_operand {mayClose : Bool} {ps : List Parenthesis} {a : Token}
    {rest : List Token}
    (hrest : c.rest = a :: rest) (hclose : mayClose = true → leave? c = none)
    (hkind : a.kind = .operator ∨ a.kind = .formula) (hopen : a ≠ opening) :
    Blocked ⟨.operand mayClose, ps⟩ (a :: rest) := by
  intro t h
  cases h with
  | leaf ha => exact hkind.elim ha.kind_ne_operator ha.kind_ne_formula
  | name ha => rcases hkind with hkind | hkind <;> cases ha.symm.trans hkind
  | group ha => exact hopen ha
  | noMore ha =>
    obtain ⟨d, hsome, -⟩ := leave?_closing (ha ▸ hrest)
    exact nomatch hsome.symm.trans (hclose rfl)

/-- Tokens that were read as an expression were gone through. -/
theorem run_of_sound {rule : List Token → Tree → Prop} {n : Nat} {p : Parsed n} {s t : Standing}
    (hrun : ∀ {ts u}, rule ts u → Run s ts t) (h : Sound rule c p) :
    ∃ ts, c.rest = ts ++ p.next.rest ∧ Run s ts t := by
  obtain ⟨ts, hts, hspan, -⟩ := h
  exact ⟨ts, hspan.rest, hrun hts⟩

/-- What goes wrong behind an operand goes wrong behind what stands before it. -/
theorem stops_of_sound {rule : List Token → Tree → Prop} {n : Nat} {p : Parsed n}
    {s t : Standing} {e : Fault} (hrun : ∀ {ts u}, rule ts u → Run s ts t) (h : Sound rule c p)
    (k : StopsAt t p.next.rest e) : StopsAt s c.rest e := by
  obtain ⟨ts, hrest, hts⟩ := run_of_sound hrun h
  rw [hrest]
  exact k.after hts

/-- An operator was gone past. -/
theorem stops_of_operator {tight : Bool} {op : Operator} {ps : List Parenthesis} {e : Fault}
    {d : { d : Cursor // d.rest.length < c.rest.length }}
    (hop : operator? tight c = some (op, d))
    (h : StopsAt ⟨.operand false, ps⟩ d.1.rest e) : StopsAt ⟨.ended, ps⟩ c.rest e := by
  obtain ⟨-, rest, hrest, hd⟩ := operator?_eq_some_iff.mp hop
  rw [hd] at h
  rw [hrest]
  exact h.cons (.operator rfl)

/-- Behind an operator no more parentheses are open than before it. -/
theorem opened_le_of_operator? {tight : Bool} {op : Operator}
    {d : { d : Cursor // d.rest.length < c.rest.length }} (hc : c.opened ≤ depthLimit)
    (hop : operator? tight c = some (op, d)) : d.1.opened ≤ depthLimit := by
  obtain ⟨-, rest, -, hd⟩ := operator?_eq_some_iff.mp hop
  rw [hd]
  exact hc

/-- Nor are there behind what a rule has read. -/
theorem Sound.opened_le {rule : List Token → Tree → Prop} {n : Nat} {p : Parsed n}
    (h : Sound rule c p) : p.next.opened ≤ depthLimit := by
  obtain ⟨ts, -, hspan, -⟩ := h
  exact hspan.opened_le

/-- Arguments that are not closed end with an expression, and nothing goes on with it. -/
theorem arguments_unclosed (ps : List Parenthesis) {c : Cursor} {q : ParsedList c.rest.length}
    (hc : c.opened ≤ depthLimit) (h : arguments c = .ok q) (hleave : leave? q.next = none) :
    ∃ ts, c.rest = ts ++ q.next.rest ∧
      Run ⟨.operand true, .arguments :: ps⟩ ts ⟨.ended, .arguments :: ps⟩ ∧
      Blocked ⟨.ended, .arguments :: ps⟩ q.next.rest := by
  rcases arguments_eq_ok_iff.mp h with ⟨hsome, -, -, hnext⟩ | ⟨-, p, hp, h⟩
  · rw [← hnext, hleave] at hsome
    cases hsome
  have hsound := expression_sound hc hp
  obtain ⟨ts, hrest, hts⟩ := run_of_sound (fun k => k.run true (.arguments :: ps)) hsound
  rcases h with ⟨hcomma, -, -, hnext⟩ | ⟨after, more, hcomma, hmore, -, -, hnext⟩
  · rw [hnext] at hleave ⊢
    exact ⟨ts, hrest, hts, blocked_ended (operator?_of_expression hp) nofun (fun _ => hleave)
      (fun _ _ => hcomma)⟩
  · obtain ⟨tail, htail, hafter⟩ := comma?_eq_some_iff.mp hcomma
    have : after.1.rest.length < c.rest.length := Nat.lt_trans after.2 p.shorter
    have hopened : after.1.opened ≤ depthLimit := by
      rw [hafter]
      exact hsound.opened_le
    obtain ⟨us, hus, hrun, hblocked⟩ := arguments_unclosed ps hopened hmore (hnext ▸ hleave)
    have hsplit : tail = us ++ more.next.rest := (congrArg Cursor.rest hafter).symm.trans hus
    rw [hnext]
    refine ⟨ts ++ comma :: us, ?_, hts.append (.cons (.comma rfl) hrun), hblocked⟩
    calc c.rest = ts ++ p.next.rest := hrest
      _ = ts ++ comma :: (us ++ more.next.rest) :=
        congrArg (ts ++ ·) (htail.trans (congrArg (comma :: ·) hsplit))
      _ = ts ++ comma :: us ++ more.next.rest := (List.append_assoc ts (comma :: us) _).symm
termination_by c.rest.length

/-! ## Rules that refuse the tokens -/

-- the proofs recurse as the functions do; `mayClose` says whether a parenthesis that closes may
-- stand in place of the operand, and then `arguments` has looked that it does not
mutual

/-- An expression blames the token at which its first term does, or one after it. -/
theorem expression_stops {c : Cursor} {mayClose : Bool} {ps : List Parenthesis} {e : Fault}
    (hc : c.opened ≤ depthLimit) (he : e.blamesToken = true)
    (hclose : mayClose = true → leave? c = none)
    (h : expression c = .error e) : StopsAt ⟨.operand mayClose, ps⟩ c.rest e := by
  rcases expression_error_cases h with h | ⟨p, hp, h⟩
  · exact term_stops hc he hclose h
  · have hsound := term_sound hc hp
    have := p.shorter
    exact stops_of_sound (fun k => k.run mayClose ps) hsound
      (moreTerms_stops hsound.opened_le he h)
termination_by (c.rest.length, 2)

/-- What follows a term blames an operand, or a token in it. -/
theorem moreTerms_stops {n : Nat} {p : Parsed n} {ps : List Parenthesis} {e : Fault}
    (hp : p.next.opened ≤ depthLimit) (he : e.blamesToken = true) (h : moreTerms p = .error e) :
    StopsAt ⟨.ended, ps⟩ p.next.rest e := by
  obtain ⟨op, d, hop, h⟩ := moreTerms_error_cases h
  have hd := opened_le_of_operator? hp hop
  have := d.2
  rcases h with h | ⟨r, hr, rfl | ⟨s, hs, h⟩⟩
  · exact stops_of_operator hop (term_stops hd he nofun h)
  · cases he
  · have hsound := term_sound hd hr
    have hnext := hs.2.2
    have : s.next.rest.length < p.next.rest.length := hnext ▸ Nat.lt_trans r.shorter d.2
    have hmore : StopsAt ⟨.ended, ps⟩ s.next.rest e :=
      moreTerms_stops (hnext ▸ hsound.opened_le) he h
    exact stops_of_operator hop
      (stops_of_sound (fun k => k.run false ps) hsound (hnext ▸ hmore))
termination_by (p.next.rest.length, 3)

/-- A term blames the token at which its first factor does, or one after it. -/
theorem term_stops {c : Cursor} {mayClose : Bool} {ps : List Parenthesis} {e : Fault}
    (hc : c.opened ≤ depthLimit) (he : e.blamesToken = true)
    (hclose : mayClose = true → leave? c = none)
    (h : term c = .error e) : StopsAt ⟨.operand mayClose, ps⟩ c.rest e := by
  rcases term_error_cases h with h | ⟨p, hp, h⟩
  · exact factor_stops he hclose h
  · have hsound := factor_sound hc hp
    have := p.shorter
    exact stops_of_sound (fun k => k.run mayClose ps) hsound
      (moreFactors_stops hsound.opened_le he h)
termination_by (c.rest.length, 1)

/-- What follows a factor blames an operand, or a token in it. -/
theorem moreFactors_stops {n : Nat} {p : Parsed n} {ps : List Parenthesis} {e : Fault}
    (hp : p.next.opened ≤ depthLimit) (he : e.blamesToken = true)
    (h : moreFactors p = .error e) : StopsAt ⟨.ended, ps⟩ p.next.rest e := by
  obtain ⟨op, d, hop, h⟩ := moreFactors_error_cases h
  have hd := opened_le_of_operator? hp hop
  have := d.2
  rcases h with h | ⟨r, hr, rfl | ⟨s, hs, h⟩⟩
  · exact stops_of_operator hop (factor_stops he nofun h)
  · cases he
  · have hsound := factor_sound hd hr
    have hnext := hs.2.2
    have : s.next.rest.length < p.next.rest.length := hnext ▸ Nat.lt_trans r.shorter d.2
    have hmore : StopsAt ⟨.ended, ps⟩ s.next.rest e :=
      moreFactors_stops (hnext ▸ hsound.opened_le) he h
    exact stops_of_operator hop
      (stops_of_sound (fun k => k.run false ps) hsound (hnext ▸ hmore))
termination_by (p.next.rest.length, 3)

/-- A factor blames a token that is no operand, or one inside it. -/
theorem factor_stops {c : Cursor} {mayClose : Bool} {ps : List Parenthesis} {e : Fault}
    (he : e.blamesToken = true) (hclose : mayClose = true → leave? c = none)
    (h : factor c = .error e) : StopsAt ⟨.operand mayClose, ps⟩ c.rest e := by
  rcases factor_error_cases h with ⟨hrest, rfl⟩ | ⟨a, rest, hrest, h⟩
  · rw [hrest]
    exact .here (fun k => nomatch k) (.unexpected _ [])
  have : rest.length < c.rest.length := by simp [hrest]
  rw [hrest]
  rcases h with ⟨-, rfl⟩ | ⟨hkind, h⟩ | ⟨rfl, h⟩ | ⟨hkind, hopen, rfl⟩
  · cases he
  · exact (call_stops (c := ⟨rest, c.opened⟩) he h).cons (.name hkind)
  · rcases h with h | ⟨inside, henter, h⟩
    · obtain rfl := eq_tooDeep_of_enter h
      cases he
    have hinside : inside.1.rest = rest := inside.2
    have : inside.1.rest.length < c.rest.length := by rwa [hinside]
    rw [← hinside]
    refine .cons (.group rfl) ?_
    rcases h with h | ⟨q, hq, hleave, rfl⟩
    · exact expression_stops (opened_le_of_enter henter) he nofun h
    · refine stops_of_sound (fun k => k.run false (.group :: ps))
        (expression_sound (opened_le_of_enter henter) hq) (.here ?_ (.group ps _))
      exact blocked_ended (operator?_of_expression hq) nofun (fun _ => hleave) nofun
  · exact .here (blocked_operand hrest hclose hkind hopen) (.unexpected _ _)
termination_by (c.rest.length, 0)

/-- A call blames the token that is no parenthesis, or one inside. -/
theorem call_stops {function : String} {c : Cursor} {ps : List Parenthesis} {e : Fault}
    (he : e.blamesToken = true) (h : call function c = .error e) :
    StopsAt ⟨.name, ps⟩ c.rest e := by
  rcases call_error_cases h with ⟨hopen, rfl⟩ | ⟨rest, hrest, h⟩
  · refine .here ?_ (.missing ps _)
    cases hrest : c.rest with
    | nil => nofun
    | cons a rest =>
      intro t h
      cases h with
      | arguments ha => exact hopen rest (ha ▸ hrest)
  rcases h with h | ⟨inside, henter, h⟩
  · obtain rfl := eq_tooDeep_of_enter h
    cases he
  have hinside : inside.1.rest = rest := inside.2
  have : inside.1.rest.length < c.rest.length := by simp [hinside, hrest]
  rw [hrest, ← hinside]
  refine .cons (.arguments rfl) ?_
  rcases h with h | ⟨q, hq, ⟨hleave, rfl⟩ | h⟩
  · exact arguments_stops (opened_le_of_enter henter) he h
  · obtain ⟨ts, hts, hrun, hblocked⟩ :=
      arguments_unclosed ps (opened_le_of_enter henter) hq hleave
    rw [hts]
    exact .after hrun (.here hblocked (.arguments ps _))
  · obtain rfl := eq_tooDeep_of_heightAbove h
    cases he
termination_by (c.rest.length, 0)

/-- Arguments blame a token in one of them, or the one that comes where they should close. -/
theorem arguments_stops {c : Cursor} {ps : List Parenthesis} {e : Fault}
    (hc : c.opened ≤ depthLimit) (he : e.blamesToken = true) (h : arguments c = .error e) :
    StopsAt ⟨.operand true, .arguments :: ps⟩ c.rest e := by
  obtain ⟨hleave, h | ⟨q, after, hq, hcomma, h⟩⟩ := arguments_error_cases h
  · exact expression_stops hc he (fun _ => hleave) h
  · have hsound := expression_sound hc hq
    obtain ⟨rest, hrest, hafter⟩ := comma?_eq_some_iff.mp hcomma
    have : after.1.rest.length < c.rest.length := Nat.lt_trans after.2 q.shorter
    have hopened : after.1.opened ≤ depthLimit := by
      rw [hafter]
      exact hsound.opened_le
    refine stops_of_sound (fun k => k.run true (.arguments :: ps)) hsound ?_
    have hmore : StopsAt ⟨.operand true, .arguments :: ps⟩ after.1.rest e :=
      arguments_stops hopened he h
    rw [hafter] at hmore
    rw [hrest]
    exact hmore.cons (.comma rfl)
termination_by (c.rest.length, 3)

end

end Cursor

/-- A fault that blames a token is met on the way along the tokens before the end. -/
theorem stopsAt_of_parse {tokens : List Token} {e : Fault} (h : parse tokens = .error e)
    (he : e.blamesToken = true) : StopsAt .start (tokens.takeWhile fun a => !a.isEnd) e := by
  unfold parse at h
  generalize tokens.takeWhile (fun a => !a.isEnd) = us at *
  rcases bind_eq_error_iff.mp h with h | ⟨p, hp, h⟩
  · exact Cursor.expression_stops (c := ⟨us, 0⟩) (Nat.zero_le _) he nofun h
  split at h
  · cases h
  · next a rest hrest =>
    cases h
    have hsound := Cursor.expression_sound (c := ⟨us, 0⟩) (Nat.zero_le _) hp
    refine Cursor.stops_of_sound (fun k => k.run false []) hsound (.here ?_ ?_)
    · exact Cursor.blocked_ended (Cursor.operator?_of_expression hp) (fun _ => hrest ▸ nofun)
        (fun hne => absurd rfl hne) nofun
    · rw [hrest]
      exact .unexpected _ _

/-! ## The place that is blamed -/

namespace Grammar

/-- The first tokens are the start of a formula, and with the next they no longer are; or they
are all, and not a formula. -/
structure FirstImpossible (before after : List Token) : Prop where
  viable : Viable before
  impossible : ∀ a rest, after = a :: rest → ¬ Viable (before ++ [a])
  incomplete : after = [] → ¬ Grammatical before

/-- Where a run is blocked, its tokens can still become a formula. With the next one they
cannot, and without a next one they are none. -/
theorem firstImpossible_of_blocked {before after : List Token} {s : Standing}
    (h : Run .start before s) (k : Blocked s after) : FirstImpossible before after where
  viable := viable_iff_run.mpr ⟨s, h⟩
  impossible := by
    rintro a rest rfl hviable
    -- the tokens lead to one standing only, and it is the one from which the next leads nowhere
    obtain ⟨t, ht⟩ := viable_iff_run.mp hviable
    obtain ⟨u, hu, hstep⟩ := ht.split
    obtain rfl := h.unique hu
    cases hstep with
    | cons hstep _ => exact k _ hstep
  incomplete := by
    rintro rfl hgrammatical
    exact k (h.unique (grammatical_iff_run.mp hgrammatical))

end Grammar

/-- What a fault says of the tokens before and after the place that it blames. -/
def Fault.Describes (before after : List Token) : Fault → Prop
  | .unexpectedToken text => text = headText after
  | .missingArguments => EndsInName before
  | .unclosedGroup => ∃ front inside, InnermostOpen before front inside ∧ ¬ EndsInName front ∧
      Grammatical inside
  | .unclosedArguments =>
    ∃ front done last, InnermostOpen before front (done ++ last) ∧ EndsInName front ∧
      Grammatical last ∧ (done = [] ∨ ∃ us, done = us ++ [comma])
  | _ => False

/-- A fault that is reported for a standing describes the tokens that led there. -/
theorem describes_of_reports {before after : List Token} {s : Standing} {e : Fault}
    (h : Run .start before s) (k : Reports s after e) : e.Describes before after := by
  cases k with
  | unexpected => rfl
  | group => exact innermostOpen_group h
  | arguments => exact innermostOpen_arguments h
  | missing =>
    cases parts_of_run h with
    | name function => exact ⟨function, List.getLast?_concat⟩

/-- If tokens are refused for a token or for one that is missing, there is a place in front of
which they are the start of a formula, and with the token behind it they are not, or none is
behind it and they are no formula; and the fault says what is at the place: the text of the
token, or a name of a function, or a complete expression within a group, or within the
arguments of a function. -/
theorem describes_of_parse {tokens : List Token} {e : Fault} (h : parse tokens = .error e)
    (he : e.blamesToken = true) :
    ∃ before after, tokens.takeWhile (fun a => !a.isEnd) = before ++ after ∧
      FirstImpossible before after ∧ e.Describes before after := by
  obtain ⟨before, after, s, hsplit, hrun, hblocked, hreports⟩ := stopsAt_of_parse h he
  exact ⟨before, after, hsplit, firstImpossible_of_blocked hrun hblocked,
    describes_of_reports hrun hreports⟩

/-- In `SUM(A1,*B1)` no operand stands before the operator. -/
theorem describes_sum_without_operand :
    let tokens := [⟨.function, "SUM"⟩, opening, ⟨.reference, "A1"⟩, comma, ⟨.operator, "*"⟩,
      ⟨.reference, "B1"⟩, closing, endMark]
    parse tokens = .error (.unexpectedToken "*") ∧
    (Fault.unexpectedToken "*").blamesToken = true ∧
      ∃ before after, tokens.takeWhile (fun a => !a.isEnd) = before ++ after ∧
        FirstImpossible before after ∧ (Fault.unexpectedToken "*").Describes before after := by
  intro tokens
  have h : parse tokens = .error (.unexpectedToken "*") := by cbv
  exact ⟨h, rfl, describes_of_parse h rfl⟩

end Formula

end Spreadsheet
