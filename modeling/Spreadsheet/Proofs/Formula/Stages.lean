import Spreadsheet.Proofs.Formula.Splitting
import Spreadsheet.Proofs.Formula.SyntaxFaults
import Spreadsheet.Sheet.Content

/-!
# Stages of faults

A text that cannot be read has a fault of the stage that refuses it, and no fault of evaluation.

- `FaultAt`, `found_of_parse`: what can be wrong at a place in the tokens, and
  that there is such a place.
- `stage_of_tokenize`, `stage_of_parse`: the faults of the two stages of reading.
- `stage_ne_evaluate_of_read`: reading has no others.
- `Sheet.content_ne_chainTooLong`: a look at a cell of a sheet follows no references.
-/

namespace Spreadsheet

namespace Formula

open Grammar

/-! ## Characters -/

/-- A lexeme that cannot be taken is a fault of the first stage. -/
theorem Lexeme.stage_of_next {c : Char} {rest : List Char} {e : Fault}
    (h : next c rest = .error e) : e.stage = .tokenize := by
  unfold next at h
  split at h
  · cases h
  split at h
  · cases h
  split at h
  · cases h
  split at h
  · split at h
    · cases h
    · split at h
      · cases h
      · cases h
        rfl
  split at h
  · split at h
    · cases h
    · cases h
      rfl
  · cases h
    rfl

/-- Scanning goes from lexeme to lexeme, and has no faults but theirs. -/
theorem stage_of_scan {cs : List Char} {e : Fault} (h : scan cs = .error e) :
    e.stage = .tokenize := by
  induction cs using scan.induct with
  | case1 =>
    rw [scan_nil] at h
    cases h
  | case2 c rest hblank ih =>
    rw [scan_of_blank hblank] at h
    exact ih h
  | case3 c rest hblank fault hnext =>
    rw [scan_of_next_error hblank hnext] at h
    cases h
    exact Lexeme.stage_of_next hnext
  | case4 c rest hblank token after hnext _ ih =>
    rw [scan_of_next_ok hblank hnext] at h
    exact ih (map_eq_error_iff.mp h)

/-- Reading tokens is the first stage. -/
theorem stage_of_tokenize {formula : String} {e : Fault} (h : tokenize formula = .error e) :
    e.stage = .tokenize :=
  stage_of_scan h

/-! ## Tokens -/

/-- What can be wrong where the given tokens are left. -/
inductive FaultAt : List Token → Fault → Prop
  | unexpected (ts : List Token) : FaultAt ts (.unexpectedToken (headText ts))
  | number (a : Token) (ts : List Token) : FaultAt (a :: ts) (.invalidNumber a.text)
  | group (ts : List Token) : FaultAt ts .unclosedGroup
  | name (ts : List Token) : FaultAt ts .missingArguments
  | arguments (ts : List Token) : FaultAt ts .unclosedArguments
  | tooDeep (ts : List Token) : FaultAt ts .tooDeep

/-- The fault is found at some place in the tokens. -/
def FoundIn (ts : List Token) (e : Fault) : Prop := ∃ rest, rest <:+ ts ∧ FaultAt rest e

/-- What is found among tokens is a fault of the second stage. -/
theorem FoundIn.stage {ts : List Token} {e : Fault} (h : FoundIn ts e) : e.stage = .parse := by
  obtain ⟨rest, -, h⟩ := h
  cases h <;> rfl

namespace Cursor

/-- Reading stands at some place in the tokens. -/
structure Within (ts : List Token) (c : Cursor) : Prop where
  suffix : c.rest <:+ ts
  opened_le : c.opened ≤ depthLimit

section

variable {ts : List Token} {c : Cursor}

namespace Within

/-- What is left after a token is still part of the tokens. -/
theorem tail {a : Token} {rest : List Token} (h : c.Within ts) (hrest : c.rest = a :: rest) :
    Within ts ⟨rest, c.opened⟩ where
  suffix := (List.suffix_cons a rest).trans (hrest ▸ h.suffix)
  opened_le := h.opened_le

/-- So is what is left after an operator. -/
theorem operator {tight : Bool} {op : Operator}
    {d : { d : Cursor // d.rest.length < c.rest.length }}
    (h : c.Within ts) (hop : operator? tight c = some (op, d)) : d.1.Within ts := by
  obtain ⟨-, rest, hrest, hd⟩ := operator?_eq_some_iff.mp hop
  rw [hd]
  exact h.tail hrest

/-- And after a comma. -/
theorem comma {d : { d : Cursor // d.rest.length < c.rest.length }} (h : c.Within ts)
    (hcomma : comma? c = some d) : d.1.Within ts := by
  obtain ⟨rest, hrest, hd⟩ := comma?_eq_some_iff.mp hcomma
  rw [hd]
  exact h.tail hrest

/-- Behind an opening parenthesis too, and the limit on them is kept. -/
theorem enter {a : Token} {rest : List Token} {inside : { d : Cursor // d.rest = rest }}
    (h : c.Within ts)
    (hrest : c.rest = a :: rest) (henter : enter c rest = .ok inside) : inside.1.Within ts where
  suffix := by
    rw [inside.2]
    exact (h.tail hrest).suffix
  opened_le := opened_le_of_enter henter

/-- Behind what was read, reading is still in the same tokens. -/
theorem next {rule : List Token → Tree → Prop} {n : Nat} {p : Parsed n} (h : c.Within ts)
    (hp : Sound rule c p) : p.next.Within ts := by
  obtain ⟨us, -, hspan, -⟩ := hp
  exact ⟨.trans ⟨us, hspan.rest.symm⟩ h.suffix, hspan.opened_le⟩

end Within

-- the proofs recurse as the functions do
mutual

/-- An expression fails with its first term or with what follows it. -/
theorem found_of_expression {c : Cursor} {e : Fault} (hc : c.Within ts)
    (h : expression c = .error e) : FoundIn ts e := by
  rcases expression_error_cases h with h | ⟨p, hp, h⟩
  · exact found_of_term hc h
  · have := p.shorter
    exact found_of_moreTerms (hc.next (term_sound hc.opened_le hp)) h
termination_by (c.rest.length, 2)

/-- What follows a term fails with an operand or for its height. -/
theorem found_of_moreTerms {n : Nat} {p : Parsed n} {e : Fault} (hp : p.next.Within ts)
    (h : moreTerms p = .error e) : FoundIn ts e := by
  obtain ⟨op, d, hop, h⟩ := moreTerms_error_cases h
  have hd := hp.operator hop
  have := d.2
  rcases h with h | ⟨r, hr, rfl | ⟨s, hs, h⟩⟩
  · exact found_of_term hd h
  · exact ⟨_, hp.suffix, .tooDeep _⟩
  · have hnext := hs.2.2
    have : s.next.rest.length < p.next.rest.length := hnext ▸ Nat.lt_trans r.shorter d.2
    exact found_of_moreTerms (hnext ▸ hd.next (term_sound hd.opened_le hr)) h
termination_by (p.next.rest.length, 3)

/-- A term fails with its first factor or with what follows it. -/
theorem found_of_term {c : Cursor} {e : Fault} (hc : c.Within ts) (h : term c = .error e) :
    FoundIn ts e := by
  rcases term_error_cases h with h | ⟨p, hp, h⟩
  · exact found_of_factor hc h
  · have := p.shorter
    exact found_of_moreFactors (hc.next (factor_sound hc.opened_le hp)) h
termination_by (c.rest.length, 1)

/-- What follows a factor fails with an operand or for its height. -/
theorem found_of_moreFactors {n : Nat} {p : Parsed n} {e : Fault} (hp : p.next.Within ts)
    (h : moreFactors p = .error e) : FoundIn ts e := by
  obtain ⟨op, d, hop, h⟩ := moreFactors_error_cases h
  have hd := hp.operator hop
  have := d.2
  rcases h with h | ⟨r, hr, rfl | ⟨s, hs, h⟩⟩
  · exact found_of_factor hd h
  · exact ⟨_, hp.suffix, .tooDeep _⟩
  · have hnext := hs.2.2
    have : s.next.rest.length < p.next.rest.length := hnext ▸ Nat.lt_trans r.shorter d.2
    exact found_of_moreFactors (hnext ▸ hd.next (factor_sound hd.opened_le hr)) h
termination_by (p.next.rest.length, 3)

/-- A factor fails with a token that is no operand, with a literal that is no
number, or inside. -/
theorem found_of_factor {c : Cursor} {e : Fault} (hc : c.Within ts) (h : factor c = .error e) :
    FoundIn ts e := by
  have hsuffix := hc.suffix
  rcases factor_error_cases h with ⟨hrest, rfl⟩ | ⟨a, rest, hrest, h⟩
  · exact ⟨_, hrest ▸ hsuffix, .unexpected []⟩
  have : rest.length < c.rest.length := by simp [hrest]
  rcases h with ⟨-, rfl⟩ | ⟨-, h⟩ | ⟨-, h⟩ | ⟨-, -, rfl⟩
  · exact ⟨_, hrest ▸ hsuffix, .number a rest⟩
  · exact found_of_call (hc.tail hrest) h
  · rcases h with h | ⟨inside, henter, h⟩
    · rw [eq_tooDeep_of_enter h]
      exact ⟨_, hsuffix, .tooDeep _⟩
    have hinside := hc.enter hrest henter
    have : inside.1.rest.length < c.rest.length := by rwa [inside.2]
    rcases h with h | ⟨q, hq, -, rfl⟩
    · exact found_of_expression hinside h
    · exact ⟨_, hsuffix, .group _⟩
  · exact ⟨_, hrest ▸ hsuffix, .unexpected (a :: rest)⟩
termination_by (c.rest.length, 0)

/-- A call fails without its parentheses or inside them. -/
theorem found_of_call {function : String} {c : Cursor} {e : Fault} (hc : c.Within ts)
    (h : call function c = .error e) : FoundIn ts e := by
  rcases call_error_cases h with ⟨-, rfl⟩ | ⟨rest, hrest, h⟩
  · exact ⟨_, hc.suffix, .name _⟩
  rcases h with h | ⟨inside, henter, h⟩
  · rw [eq_tooDeep_of_enter h]
    exact ⟨_, hc.suffix, .tooDeep _⟩
  have : inside.1.rest.length < c.rest.length := by simp [inside.2, hrest]
  rcases h with h | ⟨q, -, ⟨-, rfl⟩ | h⟩
  · exact found_of_arguments (hc.enter hrest henter) h
  · exact ⟨_, hc.suffix, .arguments _⟩
  · rw [eq_tooDeep_of_heightAbove h]
    exact ⟨_, hc.suffix, .tooDeep _⟩
termination_by (c.rest.length, 0)

/-- Arguments fail with one of them. -/
theorem found_of_arguments {c : Cursor} {e : Fault} (hc : c.Within ts)
    (h : arguments c = .error e) : FoundIn ts e := by
  obtain ⟨-, h | ⟨q, after, hq, hcomma, h⟩⟩ := arguments_error_cases h
  · exact found_of_expression hc h
  · have : after.1.rest.length < c.rest.length := Nat.lt_trans after.2 q.shorter
    exact found_of_arguments ((hc.next (expression_sound hc.opened_le hq)).comma hcomma) h
termination_by (c.rest.length, 3)

end

end

end Cursor

/-- What is wrong with tokens is found at some place up to the mark at their end. -/
theorem found_of_parse {tokens : List Token} {e : Fault} (h : parse tokens = .error e) :
    FoundIn (tokens.takeWhile fun a => !a.isEnd) e := by
  unfold parse at h
  generalize tokens.takeWhile (fun a => !a.isEnd) = us at *
  have hstart : Cursor.Within us ⟨us, 0⟩ := ⟨List.suffix_refl us, Nat.zero_le _⟩
  rcases bind_eq_error_iff.mp h with h | ⟨p, hp, h⟩
  · exact Cursor.found_of_expression hstart h
  have hnext := (hstart.next (Cursor.expression_sound hstart.opened_le hp)).suffix
  split at h
  · cases h
  · next a rest hrest =>
    cases h
    exact ⟨_, hrest ▸ hnext, .unexpected (a :: rest)⟩

/-- Reading a tree is the second stage, on any tokens. -/
theorem stage_of_parse {tokens : List Token} {e : Fault} (h : parse tokens = .error e) :
    e.stage = .parse :=
  (found_of_parse h).stage

/-! ## Texts and cells -/

/-- A formula that cannot be read fails before its evaluation. -/
theorem stage_ne_evaluate_of_read {formula : String} {e : Fault} (h : read formula = .error e) :
    e.stage ≠ .evaluate := by
  rcases bind_eq_error_iff.mp h with h | ⟨tokens, -, h⟩
  · exact stage_of_tokenize h ▸ nofun
  · exact stage_of_parse h ▸ nofun

/-- A text has a fault of the first stage exactly if it has no tokens. -/
theorem tokenize_eq_error_iff {formula : String} {e : Fault} :
    tokenize formula = .error e ↔ e.stage = .tokenize ∧ read formula = .error e := by
  constructor
  · intro h
    exact ⟨stage_of_tokenize h, by rw [read, h]; rfl⟩
  · rintro ⟨hstage, hread⟩
    rcases bind_eq_error_iff.mp hread with h | ⟨ts, -, h⟩
    · exact h
    · rw [stage_of_parse h] at hstage
      cases hstage

end Formula

open Formula

/-- A look at a cell of a sheet follows no references, so it does not meet the limit on them. -/
theorem Sheet.content_ne_chainTooLong (s : Sheet) (a : String) :
    s.content a ≠ .error .chainTooLong := by
  intro h
  unfold Sheet.content at h
  split at h
  · cases h
  · cases h
  · split at h
    · exact stage_ne_evaluate_of_read (map_eq_error_iff.mp h) rfl
    · cases h

end Spreadsheet
