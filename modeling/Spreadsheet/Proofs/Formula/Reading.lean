import Spreadsheet.Proofs.Formula.Cursor

/-!
# Reading follows the grammar

A tree is read from a list of tokens exactly when the grammar derives it, it is not too high,
and never too many parentheses are open at a time.

- `Cursor.Spans`: reading goes on from one place to another over given tokens, with the same
  parentheses open before and after them.
- `expression_sound`, `term_sound`, `factor_sound`, `call_sound`, `arguments_sound`: what was
  read is derived from the tokens that were gone past.
- `expression_complete`, `term_complete`, `factor_complete`, `arguments_complete`: what is
  derived is read, if no operator goes on with it.
- `parse_eq_ok_iff`: both, for a whole list of tokens.
-/

namespace Spreadsheet

namespace Formula

open Grammar Token

namespace Cursor

variable {c : Cursor}

/-! ## Going past tokens -/

/-- Reading goes on at `d` after the tokens `ts`, with as many parentheses open as at `c` and
never too many between. -/
structure Spans (c : Cursor) (ts : List Token) (d : Cursor) : Prop where
  rest : c.rest = ts ++ d.rest
  opened : d.opened = c.opened
  within : WithinLimit c.opened ts

namespace Spans

variable {d e : Cursor} {ts us : List Token}

/-- The limit on open parentheses is kept on the way, and so at the end of it. -/
theorem opened_le (h : Spans c ts d) : d.opened ≤ depthLimit := h.opened ▸ h.within.le

theorem refl (h : c.opened ≤ depthLimit) : Spans c [] c :=
  ⟨rfl, rfl, withinLimit_nil.mpr h⟩

/-- Goes past one token that is no parenthesis. -/
theorem single {a : Token} {rest : List Token} (hc : c.opened ≤ depthLimit)
    (h : c.rest = a :: rest) (ho : a ≠ opening) (hx : a ≠ closing) :
    Spans c [a] ⟨rest, c.opened⟩ :=
  ⟨h, rfl, (withinLimit_cons ho hx).mpr (withinLimit_nil.mpr hc)⟩

/-- What is balanced and within the limit is gone past piece by piece. -/
theorem append (hts : Balanced ts) (h : Spans c ts d) (k : Spans d us e) :
    Spans c (ts ++ us) e where
  rest := by rw [h.rest, k.rest, List.append_assoc]
  opened := k.opened.trans h.opened
  within := (withinLimit_append hts).mpr ⟨h.within, h.opened ▸ k.within⟩

/-- Goes past one more parenthesis at either end. -/
theorem enclose {rest after : List Token} (hts : Balanced ts) (hc : c.rest = opening :: rest)
    (h : Spans ⟨rest, c.opened + 1⟩ ts d) (hd : d.rest = closing :: after) :
    Spans c (opening :: ts ++ [closing]) ⟨after, d.opened - 1⟩ where
  rest := by
    have := h.rest
    simp only at this
    rw [hc, this, hd]
    simp
  opened := by
    rw [h.opened]
    rfl
  within := (withinLimit_enclose hts).mpr h.within

/-- The place between two parts. -/
theorem split (hts : Balanced ts) (h : Spans c (ts ++ us) e) :
    ∃ d, Spans c ts d ∧ Spans d us e := by
  obtain ⟨hc, hus⟩ := (withinLimit_append hts).mp h.within
  refine ⟨⟨us ++ e.rest, c.opened⟩, ⟨?_, rfl, hc⟩, rfl, h.opened, hus⟩
  rw [h.rest, List.append_assoc]

/-- The place after one token. -/
theorem split_cons {a : Token} (ha : Balanced [a]) (h : Spans c (a :: us) e) :
    ∃ d, Spans c [a] d ∧ Spans d us e :=
  split ha h

/-- The places after a parenthesis that opens and before the one that closes. -/
theorem inside (hts : Balanced ts) (h : Spans c (opening :: ts ++ [closing]) e) :
    c.rest = opening :: (ts ++ closing :: e.rest) ∧
      Spans ⟨ts ++ closing :: e.rest, c.opened + 1⟩ ts ⟨closing :: e.rest, c.opened + 1⟩ := by
  refine ⟨?_, rfl, rfl, (withinLimit_enclose hts).mp h.within⟩
  rw [h.rest]
  simp

/-- What is not empty leaves fewer tokens. -/
theorem length_lt (h : Spans c ts e) (hts : ts ≠ []) : e.rest.length < c.rest.length := by
  have := List.length_pos_iff.mpr hts
  rw [h.rest, List.length_append]
  omega

theorem eq_of_nil (h : Spans c [] e) : e = c := by
  obtain ⟨hrest, hopened, -⟩ := h
  obtain ⟨rest, opened⟩ := c
  obtain ⟨rest', opened'⟩ := e
  simp only [List.nil_append] at hrest hopened
  rw [hrest, hopened]

/-- A single token that is no parenthesis opens nothing. -/
theorem eq_mk {a : Token} (h : Spans c [a] e) : c.rest = a :: e.rest ∧ e = ⟨e.rest, c.opened⟩ :=
  ⟨h.rest, by rw [← h.opened]⟩

end Spans

/-- What is read between entering and leaving is enclosed in parentheses. -/
theorem Spans.of_enter_leave {rest ts : List Token} {inside : { d : Cursor // d.rest = rest }}
    {d : Cursor} {after : { e : Cursor // e.rest.length < d.rest.length }}
    (hc : c.rest = opening :: rest) (henter : enter c rest = .ok inside) (hts : Balanced ts)
    (h : Spans inside.1 ts d) (hleave : leave? d = some after) :
    Spans c (opening :: ts ++ [closing]) after.1 := by
  obtain ⟨-, hinside⟩ := enter_eq_ok_iff.mp henter
  obtain ⟨tail, htail, hafter⟩ := leave?_eq_some_iff.mp hleave
  rw [hinside] at h
  rw [hafter]
  exact h.enclose hts hc htail

/-- A parenthesis is entered only if one more may be open. -/
theorem opened_le_of_enter {rest : List Token} {inside : { d : Cursor // d.rest = rest }}
    (h : enter c rest = .ok inside) : inside.1.opened ≤ depthLimit := by
  obtain ⟨hle, hinside⟩ := enter_eq_ok_iff.mp h
  rw [hinside]
  exact hle

/-! ## What was read is derived -/

/-- The tree that was read is derived from the tokens that were gone past, and its
height is counted right. -/
def Sound (rule : List Token → Tree → Prop) (c : Cursor) {n : Nat} (p : Parsed n) : Prop :=
  ∃ ts, rule ts p.tree ∧ Spans c ts p.next ∧ p.height = p.tree.height ∧ p.height ≤ depthLimit

/-- The trees of the arguments that were read are derived from the tokens that
were gone past. -/
def SoundList (c : Cursor) {n : Nat} (p : ParsedList n) : Prop :=
  ∃ ts, Arguments ts p.trees ∧ Spans c ts p.next ∧ p.height = Tree.heights p.trees ∧
    p.height ≤ depthLimit

/-- What stands after the name of a function, and the tree of the call. -/
def Call (function : String) (ts : List Token) (t : Tree) : Prop :=
  ∃ us args, ts = opening :: us ++ [closing] ∧ t = .call function args ∧ Arguments us args

/-- As many parentheses are open after an operator as before what it goes on. -/
theorem Sound.opened_le_of_operator {rule : List Token → Tree → Prop} {n : Nat} {p : Parsed n}
    {tight : Bool} {op : Operator} {d : { d : Cursor // d.rest.length < p.next.rest.length }}
    (h : Sound rule c p) (hop : operator? tight p.next = some (op, d)) :
    d.1.opened ≤ depthLimit := by
  obtain ⟨ts, -, hspan, -⟩ := h
  obtain ⟨-, rest, -, hd⟩ := operator?_eq_some_iff.mp hop
  rw [hd]
  exact hspan.opened_le

/-- One round of a repetition goes on with what the rule derives. -/
theorem Sound.extends {outer inner : List Token → Tree → Prop} {tight : Bool}
    (hrule : ∀ {us vs l r op}, outer us l → op.bindsTightly = tight → inner vs r →
      outer (us ++ ofOperator op :: vs) (.operation op l r))
    (hbalanced : ∀ {us t}, outer us t → Balanced us)
    {n m : Nat} {p q : Parsed n} {r : Parsed m} {op : Operator}
    {d : { d : Cursor // d.rest.length < p.next.rest.length }}
    (hp : Sound outer c p) (hop : operator? tight p.next = some (op, d))
    (hr : Sound inner d.1 r) (hq : Extends q p op r) : Sound outer c q := by
  obtain ⟨us, hus, hspan, hph, -⟩ := hp
  obtain ⟨vs, hvs, kspan, hrh, -⟩ := hr
  obtain ⟨htree, hheight, hnext⟩ := hq
  obtain ⟨htight, rest, hrest, hd⟩ := operator?_eq_some_iff.mp hop
  obtain ⟨hle, hq⟩ := heightAbove_eq_ok_iff.mp hheight
  have hsingle : Spans p.next [ofOperator op] d.1 := by
    rw [hd]
    exact .single hspan.opened_le hrest (ofOperator_ne_opening op) (ofOperator_ne_closing op)
  -- left of the operator stands what was read before, right of it the operand
  refine ⟨us ++ ofOperator op :: vs, htree ▸ hrule hus htight hvs, ?_, ?_, ?_⟩
  · rw [hnext]
    exact hspan.append (hbalanced hus) (hsingle.append (balanced_ofOperator op) kspan)
  · rw [hq, htree, Tree.height, hph, hrh]
  · omega

-- the proofs recurse as the functions do, and each says of one function that
-- what it returns is sound
mutual

/-- What an expression is read from is one, and it has the tree that is returned. -/
theorem expression_sound {c : Cursor} {p : Parsed c.rest.length} (hc : c.opened ≤ depthLimit)
    (h : expression c = .ok p) : Sound Expression c p := by
  obtain ⟨q, hq, h⟩ := expression_eq_ok_iff.mp h
  obtain ⟨ts, hts, hsound⟩ := term_sound hc hq
  have := q.shorter
  exact moreTerms_sound ⟨ts, .term hts, hsound⟩ h
termination_by (c.rest.length, 2)

/-- What has been read before and the operators that follow are an expression together. -/
theorem moreTerms_sound {c : Cursor} {n : Nat} {p q : Parsed n} (hp : Sound Expression c p)
    (h : moreTerms p = .ok q) : Sound Expression c q := by
  rcases moreTerms_cases h with ⟨-, rfl⟩ | ⟨op, d, r, s, hop, hr, hs, h⟩
  · exact hp
  · have hsound : Sound Term d.1 r := term_sound (hp.opened_le_of_operator hop) hr
    have : s.next.rest.length < p.next.rest.length := hs.2.2 ▸ Nat.lt_trans r.shorter d.2
    exact moreTerms_sound
      (hp.extends (fun k ht l => .operation _ k ht l) Expression.balanced hop hsound hs) h
termination_by (p.next.rest.length, 3)

/-- The same of a term. -/
theorem term_sound {c : Cursor} {p : Parsed c.rest.length} (hc : c.opened ≤ depthLimit)
    (h : term c = .ok p) : Sound Term c p := by
  obtain ⟨q, hq, h⟩ := term_eq_ok_iff.mp h
  obtain ⟨ts, hts, hsound⟩ := factor_sound hc hq
  have := q.shorter
  exact moreFactors_sound ⟨ts, .factor hts, hsound⟩ h
termination_by (c.rest.length, 1)

/-- What has been read before and the tight operators that follow are a term together. -/
theorem moreFactors_sound {c : Cursor} {n : Nat} {p q : Parsed n} (hp : Sound Term c p)
    (h : moreFactors p = .ok q) : Sound Term c q := by
  rcases moreFactors_cases h with ⟨-, rfl⟩ | ⟨op, d, r, s, hop, hr, hs, h⟩
  · exact hp
  · have hsound : Sound Factor d.1 r := factor_sound (hp.opened_le_of_operator hop) hr
    have : s.next.rest.length < p.next.rest.length := hs.2.2 ▸ Nat.lt_trans r.shorter d.2
    exact moreFactors_sound
      (hp.extends (fun k ht l => .operation _ k ht l) Term.balanced hop hsound hs) h
termination_by (p.next.rest.length, 3)

/-- The same of a factor: a leaf, a group or a call. -/
theorem factor_sound {c : Cursor} {p : Parsed c.rest.length} (hc : c.opened ≤ depthLimit)
    (h : factor c = .ok p) : Sound Factor c p := by
  obtain ⟨a, rest, hrest, h⟩ := factor_eq_ok_iff.mp h
  rcases h with hleaf | ⟨q, hkind, hq, hsame⟩ | ⟨rfl, inside, q, after, henter, hq, hleave, hp⟩
  · obtain ⟨hleaf, hheight, hnext⟩ := hleaf
    refine ⟨[a], .leaf hleaf, ?_, hheight.trans hleaf.height.symm, hheight ▸ by decide⟩
    rw [hnext]
    exact .single hc hrest hleaf.ne_opening hleaf.ne_closing
  · obtain ⟨htree, hheight, hnext⟩ := hsame
    have : rest.length < c.rest.length := by simp [hrest]
    obtain ⟨ts, ⟨us, args, rfl, hcall, hargs⟩, hspan, hsound⟩ :=
      call_sound (c := ⟨rest, c.opened⟩) hq
    -- the name itself, and behind it what `call` goes past
    have hname : Spans c [a] ⟨rest, c.opened⟩ :=
      .single hc hrest (ne_of_kind hkind nofun) (ne_of_kind hkind nofun)
    refine ⟨a :: (opening :: us ++ [closing]), ?_, ?_, ?_⟩
    · rw [htree, hcall, show a = ⟨.function, a.text⟩ from hkind ▸ rfl]
      exact .call hargs
    · rw [hnext]
      exact hname.append
        (balanced_nil.cons (ne_of_kind hkind nofun) (ne_of_kind hkind nofun)) hspan
    · rw [htree, hheight]
      exact hsound
  · obtain ⟨htree, hheight, hnext⟩ := hp
    have : inside.1.rest.length < c.rest.length := by simp [inside.2, hrest]
    obtain ⟨ts, hts, hspan, hsound⟩ := expression_sound (opened_le_of_enter henter) hq
    refine ⟨opening :: ts ++ [closing], htree ▸ .group hts, ?_, ?_⟩
    · rw [hnext]
      exact .of_enter_leave hrest henter hts.balanced hspan hleave
    · rw [htree, hheight]
      exact hsound
termination_by (c.rest.length, 0)

/-- The same of what follows the name of a call. -/
theorem call_sound {function : String} {c : Cursor} {p : Parsed c.rest.length}
    (h : call function c = .ok p) : Sound (Call function) c p := by
  obtain ⟨rest, inside, q, after, hrest, henter, hq, hleave, htree, habove, hnext⟩ :=
    call_eq_ok_iff.mp h
  have : inside.1.rest.length < c.rest.length := by simp [inside.2, hrest]
  obtain ⟨ts, hts, hspan, hheight, -⟩ := arguments_sound (opened_le_of_enter henter) hq
  obtain ⟨hle, hp⟩ := heightAbove_eq_ok_iff.mp habove
  refine ⟨opening :: ts ++ [closing], ⟨ts, q.trees, rfl, htree, hts⟩, ?_, ?_, hp ▸ hle⟩
  · rw [hnext]
    exact .of_enter_leave hrest henter hts.balanced hspan hleave
  · rw [hp, htree, Tree.height, hheight]
termination_by (c.rest.length, 0)

/-- The same of the arguments up to the closing parenthesis. -/
theorem arguments_sound {c : Cursor} {p : ParsedList c.rest.length} (hc : c.opened ≤ depthLimit)
    (h : arguments c = .ok p) : SoundList c p := by
  rcases arguments_eq_ok_iff.mp h with ⟨-, htrees, hheight, hnext⟩ | ⟨-, q, hq, h⟩
  · refine ⟨[], htrees ▸ .none, ?_, ?_, hheight ▸ Nat.zero_le _⟩
    · rw [hnext]
      exact .refl hc
    · rw [hheight, htrees, Tree.heights]
  · obtain ⟨ts, hts, hspan, hqheight, hle⟩ := expression_sound hc hq
    rcases h with ⟨-, htrees, hheight, hnext⟩ | ⟨after, more, hcomma, hmore, h⟩
    · refine ⟨ts, htrees ▸ .last hts, hnext ▸ hspan, ?_, hheight ▸ hle⟩
      rw [hheight, htrees, Tree.heights, Tree.heights, hqheight, Nat.max_zero]
    · obtain ⟨htrees, hheight, hnext⟩ := h
      obtain ⟨rest, hrest, hafter⟩ := comma?_eq_some_iff.mp hcomma
      have hsingle : Spans q.next [comma] after.1 := by
        rw [hafter]
        exact .single hspan.opened_le hrest (by decide) (by decide)
      have : after.1.rest.length < c.rest.length := Nat.lt_trans after.2 q.shorter
      obtain ⟨us, hus, kspan, kheight, kle⟩ := arguments_sound hsingle.opened_le hmore
      refine ⟨ts ++ comma :: us, htrees ▸ .more hts hus, ?_, ?_, ?_⟩
      · rw [hnext]
        exact hspan.append hts.balanced (hsingle.append balanced_comma kspan)
      · rw [hheight, htrees, Tree.heights, hqheight, kheight]
      · rw [hheight]
        exact Nat.max_le.mpr ⟨hle, kle⟩
termination_by (c.rest.length, 3)

end

/-! ## What is derived is read -/

/-- The tree was read, with its height, up to a place. -/
def ReadsTo {n : Nat} (p : Parsed n) (t : Tree) (d : Cursor) : Prop :=
  p.tree = t ∧ p.height = t.height ∧ p.next = d

/-- A derived operation is one round of a repetition. -/
theorem extends_of_readsTo {n m : Nat} {p : Parsed n} {r : Parsed m}
    {op : Operator} {u v : Tree} {d e : Cursor} (hp : ReadsTo p u d) (hr : ReadsTo r v e)
    (hheight : (Tree.operation op u v).height ≤ depthLimit) (hlt : r.next.rest.length < n) :
    ∃ q : Parsed n, Extends q p op r ∧ ReadsTo q (.operation op u v) e := by
  obtain ⟨rfl, hpheight, -⟩ := hp
  obtain ⟨rfl, hrheight, rfl⟩ := hr
  refine ⟨⟨.operation op p.tree r.tree, max p.height r.height + 1, r.next, hlt⟩,
    ⟨rfl, heightAbove_eq_ok_iff.mpr ⟨?_, rfl⟩, rfl⟩, rfl, ?_, rfl⟩
  · rw [hpheight, hrheight]
    exact hheight
  · rw [hpheight, hrheight, Tree.height]

/-- No operator of a tier stands where another token or the end stands. -/
theorem operator?_eq_none {tight : Bool}
    (h : ∀ op rest, c.rest = ofOperator op :: rest → op.bindsTightly ≠ tight) :
    operator? tight c = none := by
  cases hop : operator? tight c with
  | none => rfl
  | some x =>
    obtain ⟨op, d⟩ := x
    obtain ⟨htight, rest, hrest, -⟩ := operator?_eq_some_iff.mp hop
    exact absurd htight (h op rest hrest)

/-- An operator that comes next is found by those who look for operators of its tightness. -/
theorem operator?_of_spans {op : Operator} {tight : Bool} {d : Cursor}
    (h : Spans c [ofOperator op] d) (htight : op.bindsTightly = tight) :
    ∃ e, operator? tight c = some (op, e) ∧ e.1 = d := by
  obtain ⟨hrest, hd⟩ := h.eq_mk
  have hlt : d.rest.length < c.rest.length := by simp [hrest]
  exact ⟨⟨d, hlt⟩, operator?_eq_some_iff.mpr ⟨htight, d.rest, hrest, hd⟩, rfl⟩

/-- A comma that comes next is found. -/
theorem comma?_of_spans {d : Cursor} (h : Spans c [comma] d) :
    ∃ e, comma? c = some e ∧ e.1 = d := by
  obtain ⟨hrest, hd⟩ := h.eq_mk
  have hlt : d.rest.length < c.rest.length := by simp [hrest]
  exact ⟨⟨d, hlt⟩, comma?_eq_some_iff.mpr ⟨d.rest, hrest, hd⟩, rfl⟩

/-- No operator stands where another token stands. -/
theorem operator?_eq_none_of_rest {tight : Bool} {a : Token} {rest : List Token}
    (hrest : c.rest = a :: rest) (ha : ∀ op, a = ofOperator op → op.bindsTightly ≠ tight) :
    operator? tight c = none :=
  operator?_eq_none fun op _ h => ha op (List.cons.inj (hrest.symm.trans h)).1

/-- An operator of one tier is none of the other. -/
theorem operator?_eq_none_of_spans {op : Operator} {tight : Bool} {d : Cursor}
    (h : Spans c [ofOperator op] d) (htight : op.bindsTightly ≠ tight) :
    operator? tight c = none := by
  refine operator?_eq_none_of_rest h.eq_mk.1 fun op' hop => ?_
  rwa [← ofOperator_injective hop]

/-- No operator stands before a parenthesis that closes. -/
theorem operator?_closing {tight : Bool} {rest : List Token} (h : c.rest = closing :: rest) :
    operator? tight c = none :=
  operator?_eq_none_of_rest h fun op hop => absurd hop.symm (ofOperator_ne_closing op)

/-- No operator stands before a comma. -/
theorem operator?_comma {tight : Bool} {rest : List Token} (h : c.rest = comma :: rest) :
    operator? tight c = none :=
  operator?_eq_none_of_rest h fun op hop => absurd hop.symm (ofOperator_ne_comma op)

theorem comma?_closing {rest : List Token} (h : c.rest = closing :: rest) :
    comma? c = none := by
  cases hcomma : comma? c with
  | none => rfl
  | some d =>
    obtain ⟨tail, htail, -⟩ := comma?_eq_some_iff.mp hcomma
    exact absurd (List.cons.inj (h.symm.trans htail)).1 (by decide)

/-- A closing parenthesis that comes next is left, whatever follows it. -/
theorem leave?_closing {rest : List Token} (h : c.rest = closing :: rest) :
    ∃ d, leave? c = some d ∧ d.1 = ⟨rest, c.opened - 1⟩ := by
  have hlt : rest.length < c.rest.length := by simp [h]
  exact ⟨⟨⟨rest, c.opened - 1⟩, hlt⟩, leave?_eq_some_iff.mpr ⟨rest, h, rfl⟩, rfl⟩

/-- Nothing else is taken for a closing parenthesis. -/
theorem leave?_of_ne {a : Token} {rest : List Token} (h : c.rest = a :: rest)
    (ha : a ≠ closing) : leave? c = none := by
  cases hleave : leave? c with
  | none => rfl
  | some d =>
    obtain ⟨tail, htail, -⟩ := leave?_eq_some_iff.mp hleave
    exact absurd (List.cons.inj (h.symm.trans htail)).1 ha

/-- A derived expression is read to its end, if no operator goes on with it. -/
theorem expression_eq_ok {t : Tree} {d : Cursor}
    (h : ∃ p : Parsed c.rest.length, ReadsTo p t d ∧ expression c = moreTerms p)
    (hstop : operator? false d = none) :
    ∃ p : Parsed c.rest.length, ReadsTo p t d ∧ expression c = .ok p := by
  obtain ⟨p, hp, hread⟩ := h
  obtain rfl := hp.2.2
  exact ⟨p, hp, hread.trans (moreTerms_of_none hstop)⟩

/-- What is enclosed is read between entering and leaving. -/
theorem enter_of_spans {ts : List Token} {d : Cursor} (hts : Balanced ts)
    (h : Spans c (opening :: ts ++ [closing]) d) :
    ∃ rest inside e, c.rest = opening :: rest ∧ enter c rest = .ok inside ∧
      Spans inside.1 ts e ∧ e.rest = closing :: d.rest ∧ e.opened - 1 = d.opened := by
  obtain ⟨hrest, hin⟩ := h.inside hts
  have henter : c.opened + 1 ≤ depthLimit := hin.within.le
  refine ⟨_, ⟨⟨_, c.opened + 1⟩, rfl⟩, _, hrest,
    enter_eq_ok_iff.mpr ⟨henter, rfl⟩, hin, rfl, ?_⟩
  exact h.opened.symm

/-- An enclosed expression is a factor. -/
theorem factor_group {ts : List Token} {t : Tree} {d : Cursor} (hts : Balanced ts)
    (hspan : Spans c (opening :: ts ++ [closing]) d)
    (h : ∀ {c d : Cursor}, Spans c ts d → operator? true d = none →
      ∃ p : Parsed c.rest.length, ReadsTo p t d ∧ expression c = moreTerms p) :
    ∃ p : Parsed c.rest.length, ReadsTo p t d ∧ factor c = .ok p := by
  obtain ⟨rest, inside, e, hrest, henter, hin, he, hopened⟩ := enter_of_spans hts hspan
  obtain ⟨q, ⟨htree, hheight, rfl⟩, hread⟩ :=
    expression_eq_ok (h hin (operator?_closing he)) (operator?_closing he)
  obtain ⟨after, hleave, hafter⟩ := leave?_closing he
  have hd : d = after.1 := by rw [hafter, hopened]
  have hlt : d.rest.length < c.rest.length := hspan.length_lt nofun
  refine ⟨⟨t, t.height, d, hlt⟩, ⟨rfl, rfl, rfl⟩,
    factor_eq_ok_iff.mpr ⟨opening, rest, hrest, ?_⟩⟩
  exact .inr (.inr ⟨rfl, inside, q, after, henter, hread, hleave, htree.symm, hheight.symm, hd⟩)

/-- A name with enclosed arguments after it is a factor. -/
theorem factor_call {function : String} {ts : List Token} {args : List Tree} {d : Cursor}
    (hts : Balanced ts)
    (hspan : Spans c (⟨.function, function⟩ :: opening :: ts ++ [closing]) d)
    (hheight : (Tree.call function args).height ≤ depthLimit)
    (h : ∀ {c d : Cursor} {rest : List Token}, Spans c ts d → d.rest = closing :: rest →
      ∃ p : ParsedList c.rest.length, p.trees = args ∧ p.height = Tree.heights args ∧
        p.next = d ∧ arguments c = .ok p) :
    ∃ p : Parsed c.rest.length, ReadsTo p (.call function args) d ∧ factor c = .ok p := by
  have hltc : d.rest.length < c.rest.length := hspan.length_lt nofun
  obtain ⟨⟨tail, opened⟩, hname, hspan⟩ := hspan.split_cons (balanced_name function)
  obtain rfl : opened = c.opened := hname.opened
  obtain ⟨rest, inside, f, hrest, henter, hin, hf, hopened⟩ := enter_of_spans hts hspan
  obtain ⟨q, htrees, hqheight, rfl, hread⟩ := h hin hf
  obtain ⟨after, hleave, hafter⟩ := leave?_closing hf
  have hd : d = after.1 := by rw [hafter, hopened]
  have hlt : d.rest.length < tail.length := hspan.length_lt nofun
  have hcall : call function ⟨tail, c.opened⟩ =
      .ok ⟨.call function args, Tree.heights args + 1, d, hlt⟩ := by
    refine call_eq_ok_iff.mpr ⟨rest, inside, q, after, hrest, henter, hread, hleave, ?_, ?_, hd⟩
    · rw [htrees]
    · rw [hqheight]
      exact heightAbove_eq_ok_iff.mpr ⟨hheight, rfl⟩
  refine ⟨⟨.call function args, Tree.heights args + 1, d, hltc⟩, ⟨rfl, rfl, rfl⟩, ?_⟩
  refine factor_eq_ok_iff.mpr ⟨⟨.function, function⟩, tail, hname.rest, .inr (.inl ?_)⟩
  exact ⟨⟨_, _, d, hlt⟩, rfl, hcall, rfl, rfl, rfl⟩

-- the recursion is on derivations; expressions and terms are left with the repetition that may
-- go on, since whether it does is decided by what follows them
mutual

/-- The tokens of an expression are read up to the operators that may still follow. -/
theorem expression_complete {ts : List Token} {t : Tree} : Expression ts t →
    ∀ {c d : Cursor}, Spans c ts d → t.height ≤ depthLimit → operator? true d = none →
      ∃ p : Parsed c.rest.length, ReadsTo p t d ∧ expression c = moreTerms p
  | .term h, c, d, hspan, hheight, hstop => by
    obtain ⟨p, hp, hterm⟩ := term_complete h hspan hheight
    obtain rfl := hp.2.2
    refine ⟨p, hp, ?_⟩
    rw [expression, hterm, moreFactors_of_none hstop]
    rfl
  | .operation op h htight k, c, d, hspan, hheight, hstop => by
    obtain ⟨hlheight, hrheight⟩ := Tree.height_operation_le hheight
    obtain ⟨e, hspan, hrest⟩ := hspan.split h.balanced
    obtain ⟨f, hop, hrest⟩ := hrest.split_cons (balanced_ofOperator op)
    -- what stands before the operator is read up to it, since it is a looser one
    obtain ⟨p, hp, hread⟩ := expression_complete h hspan hlheight
      (operator?_eq_none_of_spans hop (by simp [htight]))
    obtain rfl := hp.2.2
    obtain ⟨g, hg, rfl⟩ := operator?_of_spans hop htight
    obtain ⟨r, hr, hterm⟩ := term_complete k hrest hrheight
    obtain rfl := hr.2.2
    rw [moreFactors_of_none hstop] at hterm
    obtain ⟨q, hq, hqread⟩ := extends_of_readsTo hp hr hheight
      (Nat.lt_trans (Nat.lt_trans r.shorter g.2) p.shorter)
    exact ⟨q, hqread, hread.trans (moreTerms_of_operator hg hterm hq)⟩

/-- The tokens of a term are read up to the tight operators that may still follow. -/
theorem term_complete {ts : List Token} {t : Tree} : Term ts t →
    ∀ {c d : Cursor}, Spans c ts d → t.height ≤ depthLimit →
      ∃ p : Parsed c.rest.length, ReadsTo p t d ∧ term c = moreFactors p
  | .factor h, c, d, hspan, hheight => by
    obtain ⟨p, hp, hfactor⟩ := factor_complete h hspan hheight
    refine ⟨p, hp, ?_⟩
    rw [term, hfactor]
    rfl
  | .operation op h htight k, c, d, hspan, hheight => by
    obtain ⟨hlheight, hrheight⟩ := Tree.height_operation_le hheight
    obtain ⟨e, hspan, hrest⟩ := hspan.split h.balanced
    obtain ⟨f, hop, hrest⟩ := hrest.split_cons (balanced_ofOperator op)
    obtain ⟨p, hp, hread⟩ := term_complete h hspan hlheight
    obtain rfl := hp.2.2
    obtain ⟨g, hg, rfl⟩ := operator?_of_spans hop htight
    obtain ⟨r, hr, hfactor⟩ := factor_complete k hrest hrheight
    obtain rfl := hr.2.2
    obtain ⟨q, hq, hqread⟩ := extends_of_readsTo hp hr hheight
      (Nat.lt_trans (Nat.lt_trans r.shorter g.2) p.shorter)
    exact ⟨q, hqread, hread.trans (moreFactors_of_operator hg hfactor hq)⟩

/-- The tokens of a factor are read to their end. -/
theorem factor_complete {ts : List Token} {t : Tree} : Factor ts t →
    ∀ {c d : Cursor}, Spans c ts d → t.height ≤ depthLimit →
      ∃ p : Parsed c.rest.length, ReadsTo p t d ∧ factor c = .ok p
  | .leaf h, c, d, hspan, hheight => by
    obtain ⟨hrest, hd⟩ := hspan.eq_mk
    have hlt : d.rest.length < c.rest.length := by simp [hrest]
    refine ⟨⟨_, 1, d, hlt⟩, ⟨rfl, h.height.symm, rfl⟩, ?_⟩
    exact factor_eq_ok_iff.mpr ⟨_, _, hrest, .inl ⟨h, rfl, hd⟩⟩
  | .group h, c, d, hspan, hheight =>
    factor_group h.balanced hspan fun hspan => expression_complete h hspan hheight
  | .call h, c, d, hspan, hheight =>
    factor_call h.balanced hspan hheight fun hspan =>
      arguments_complete h hspan (Nat.le_of_succ_le hheight)

/-- The tokens of arguments are read up to the closing parenthesis. -/
theorem arguments_complete {ts : List Token} {args : List Tree} : Arguments ts args →
    ∀ {c d : Cursor} {rest : List Token}, Spans c ts d → Tree.heights args ≤ depthLimit →
      d.rest = closing :: rest →
      ∃ p : ParsedList c.rest.length, p.trees = args ∧ p.height = Tree.heights args ∧
        p.next = d ∧ arguments c = .ok p
  | .none, c, d, rest, hspan, hheight, hd => by
    obtain rfl := hspan.eq_of_nil
    obtain ⟨e, hleave, -⟩ := leave?_closing hd
    refine ⟨⟨[], 0, d, Nat.le_refl _⟩, rfl, by rw [Tree.heights], rfl, ?_⟩
    exact arguments_eq_ok_iff.mpr (.inl ⟨by simp [hleave], rfl, rfl, rfl⟩)
  | .last h, c, d, rest, hspan, hheight, hd => by
    obtain ⟨a, us, hstart, ha⟩ := h.starts
    rw [Tree.heights, Tree.heights, Nat.max_zero] at hheight
    obtain ⟨q, ⟨rfl, hqheight, rfl⟩, hread⟩ := expression_eq_ok
      (expression_complete h hspan hheight (operator?_closing hd)) (operator?_closing hd)
    refine ⟨⟨[q.tree], q.height, q.next, Nat.le_of_lt q.shorter⟩, rfl, ?_, rfl, ?_⟩
    · rw [hqheight, Tree.heights, Tree.heights, Nat.max_zero]
    · -- no expression starts with the parenthesis that would end the list before it
      have hleave : leave? c = none :=
        leave?_of_ne (hspan.rest.trans (congrArg (· ++ q.next.rest) hstart)) ha.ne_closing
      exact arguments_eq_ok_iff.mpr
        (.inr ⟨hleave, q, hread, .inl ⟨comma?_closing hd, rfl, rfl, rfl⟩⟩)
  | .more h k, c, d, rest, hspan, hheight, hd => by
    rw [Tree.heights] at hheight
    obtain ⟨a, us, hstart, ha⟩ := h.starts
    obtain ⟨e, hfirst, hrest⟩ := hspan.split h.balanced
    obtain ⟨f, hcomma, hrest⟩ := hrest.split_cons balanced_comma
    have he := hcomma.eq_mk.1
    obtain ⟨q, ⟨rfl, hqheight, rfl⟩, hread⟩ := expression_eq_ok
      (expression_complete h hfirst (by omega) (operator?_comma he)) (operator?_comma he)
    obtain ⟨g, hg, rfl⟩ := comma?_of_spans hcomma
    obtain ⟨m, rfl, hmheight, rfl, hmore⟩ := arguments_complete k hrest (by omega) hd
    have hle : m.next.rest.length ≤ c.rest.length :=
      Nat.le_trans m.shorter (Nat.le_of_lt (Nat.lt_trans g.2 q.shorter))
    refine ⟨⟨q.tree :: m.trees, max q.height m.height, m.next, hle⟩, rfl, ?_, rfl, ?_⟩
    · rw [hqheight, hmheight, Tree.heights]
    · have hleave : leave? c = none :=
        leave?_of_ne (hfirst.rest.trans (congrArg (· ++ q.next.rest) hstart)) ha.ne_closing
      exact arguments_eq_ok_iff.mpr
        (.inr ⟨hleave, q, hread, .inr ⟨g, m, hg, hmore, rfl, rfl, rfl⟩⟩)

end

end Cursor

/-! ## Whole lists of tokens -/

/-- A tree that was read is derived from the tokens up to the mark at their end. -/
theorem derived_of_parse {tokens : List Token} {t : Tree} (h : parse tokens = .ok t) :
    Expression (tokens.takeWhile fun a => !a.isEnd) t ∧ t.height ≤ depthLimit ∧
      WithinLimit 0 (tokens.takeWhile fun a => !a.isEnd) := by
  unfold parse at h
  generalize tokens.takeWhile (fun a => !a.isEnd) = us at *
  obtain ⟨p, hp, h⟩ := bind_eq_ok_iff.mp h
  obtain ⟨ts, hts, hspan, hheight, hle⟩ := Cursor.expression_sound (Nat.zero_le _) hp
  split at h
  · next hrest =>
    cases h
    -- nothing is left, so all tokens were gone past
    obtain rfl : us = ts := by simpa [hrest] using hspan.rest
    exact ⟨hts, hheight ▸ hle, hspan.within⟩
  · cases h

/-- A derived tree is read, if neither it nor its parentheses go too deep. -/
theorem parse_of_derived {tokens : List Token} {t : Tree}
    (h : Expression (tokens.takeWhile fun a => !a.isEnd) t) (hheight : t.height ≤ depthLimit)
    (hwithin : WithinLimit 0 (tokens.takeWhile fun a => !a.isEnd)) : parse tokens = .ok t := by
  unfold parse
  generalize tokens.takeWhile (fun a => !a.isEnd) = ts at *
  have hspan : Cursor.Spans ⟨ts, 0⟩ ts ⟨[], 0⟩ := ⟨(List.append_nil ts).symm, rfl, hwithin⟩
  have hstop : ∀ tight, Cursor.operator? tight ⟨[], 0⟩ = none := fun _ => rfl
  obtain ⟨p, ⟨rfl, -, hnext⟩, hread⟩ := Cursor.expression_eq_ok
    (Cursor.expression_complete h hspan hheight (hstop true)) (hstop false)
  refine bind_eq_ok_iff.mpr ⟨p, hread, ?_⟩
  rw [hnext]
  rfl

/-- A tree is read from a list of tokens exactly when the grammar derives it from the tokens
up to the mark at their end, it is not higher than the limit, and never more parentheses
than the limit are open. -/
theorem parse_eq_ok_iff (tokens : List Token) (t : Tree) :
    parse tokens = .ok t ↔
      Expression (tokens.takeWhile fun a => !a.isEnd) t ∧ t.height ≤ depthLimit ∧
        WithinLimit 0 (tokens.takeWhile fun a => !a.isEnd) :=
  ⟨derived_of_parse, fun ⟨h, hheight, hwithin⟩ => parse_of_derived h hheight hwithin⟩

end Formula

end Spreadsheet
