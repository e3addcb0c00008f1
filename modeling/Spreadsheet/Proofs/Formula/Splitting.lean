import Spreadsheet.Proofs.Formula.Lexicon
import Spreadsheet.Proofs.Outcome

/-!
# Splitting a text into lexemes

The tokenizer splits a text into lexemes with blank characters between them and
loses nothing else.

- `scan_nil`, `scan_of_blank`, `scan_of_next_error`, `scan_of_next_ok`: one step
  of the tokenizer.
- `Piece`, `textOf`, `Splits`: lexemes with the blank characters before them, the text they make
  up, and whether each is the one chosen at its place.
- `SplitsUpTo`: a text splits up to a place in it; every text does so up to its end or up to a
  character that starts no lexeme (`exists_splitsUpTo`).
- `SplitsUpTo.append`: what may be written behind a text without another split.
- `scan_of_splitsUpTo`: the tokenizer follows such a split.
- `tokenize_lexical_grammar`: the outcome of the tokenizer is given by the split.
- `tokenize_trim`: blank ends of a formula do not count.
-/

namespace Spreadsheet

namespace Formula

open Lexeme

/-! ## One step -/

section

variable {c : Char} {cs : List Char}

theorem scan_nil : scan [] = .ok [Token.endMark] := by
  rw [scan.eq_def]

/-- Blank characters between lexemes are passed over. -/
theorem scan_of_blank (hc : Text.isBlank c = true) : scan (c :: cs) = scan cs := by
  rw [scan.eq_def]
  exact if_pos hc

theorem scan_of_next_error (hc : ¬ Text.isBlank c = true) {e : Fault}
    (h : Lexeme.next c cs = .error e) : scan (c :: cs) = .error e := by
  rw [scan.eq_def]
  dsimp only
  rw [if_neg hc]
  split
  · next herror => exact congrArg _ (Except.error.inj (herror.symm.trans h))
  · next hok => cases h.symm.trans hok

/-- One lexeme gives one token, and scanning goes on behind it. -/
theorem scan_of_next_ok (hc : ¬ Text.isBlank c = true) {token : Token} {after : List Char}
    (h : Lexeme.next c cs = .ok (token, after)) :
    scan (c :: cs) = (scan after).map (token :: ·) := by
  rw [scan.eq_def]
  dsimp only
  rw [if_neg hc]
  split
  · next herror => cases h.symm.trans herror
  · next hok =>
    cases h.symm.trans hok
    rfl

end

/-- Blank characters are passed over. -/
theorem scan_append_of_blank {blanks : List Char} (h : ∀ c ∈ blanks, Text.isBlank c = true)
    (cs : List Char) : scan (blanks ++ cs) = scan cs := by
  induction blanks with
  | nil => rfl
  | cons c blanks ih =>
    rw [List.cons_append, scan_of_blank (h c List.mem_cons_self)]
    exact ih fun d hd => h d (List.mem_cons_of_mem c hd)

/-- The chosen lexeme becomes the next token. -/
theorem scan_of_chosen {k : LexemeClass} {l after : List Char} (h : Chosen k l after) :
    scan (l ++ after) = (scan after).map (k.token l :: ·) := by
  obtain ⟨c, cs, rfl, hc⟩ := h.contains.starts
  have hblank : ¬ Text.isBlank c = true := by simp [LexemeClass.isBlank_of_starts hc]
  exact scan_of_next_ok hblank (next_of_chosen h rfl)

/-- A character that starts no lexeme is the fault of the text. -/
theorem scan_of_absent {c : Char} {cs : List Char} (hc : Text.isBlank c = false)
    (h : ∀ k : LexemeClass, k.Absent (c :: cs)) : scan (c :: cs) = .error (faultOf c) :=
  scan_of_next_error (by simp [hc]) (next_of_absent h)

/-! ## Pieces -/

/-- A lexeme of a text, and the blank characters before it. -/
structure Piece where
  blanks : List Char
  kind : LexemeClass
  lexeme : List Char

/-- The token of the lexeme. -/
def Piece.token (p : Piece) : Token := p.kind.token p.lexeme

/-- The text that pieces make up, and then the rest. -/
def textOf : List Piece → List Char → List Char
  | [], rest => rest
  | p :: ps, rest => p.blanks ++ (p.lexeme ++ textOf ps rest)

/-- In the text of the pieces and the rest, each piece is the lexeme chosen at its place, with
nothing but blank characters before it. -/
inductive Splits : List Piece → List Char → Prop
  | nil (rest : List Char) : Splits [] rest
  | cons {p : Piece} {ps : List Piece} {rest : List Char}
      (hblanks : ∀ c ∈ p.blanks, Text.isBlank c = true)
      (hchosen : Chosen p.kind p.lexeme (textOf ps rest)) (h : Splits ps rest) :
      Splits (p :: ps) rest

/-- The text splits into the pieces and blank characters after them, up to the rest. -/
def SplitsUpTo (cs : List Char) (ps : List Piece) (rest : List Char) : Prop :=
  ∃ blanks, (∀ c ∈ blanks, Text.isBlank c = true) ∧ Splits ps (blanks ++ rest) ∧
    cs = textOf ps (blanks ++ rest)

/-- Nothing is left, or a character that is not blank and starts no lexeme. -/
def Stuck (rest : List Char) : Prop :=
  rest = [] ∨ ∃ c after, rest = c :: after ∧ Text.isBlank c = false ∧
    ∀ k : LexemeClass, k.Absent (c :: after)

/-- What stands behind the pieces stays behind them. -/
theorem textOf_append (ps : List Piece) (rest more : List Char) :
    textOf ps (rest ++ more) = textOf ps rest ++ more := by
  induction ps with
  | nil => rfl
  | cons p ps ih => simp [textOf, ih]

section

variable {more : List Char}
  (hmore : ∀ {k : LexemeClass} {l rest : List Char}, Chosen k l rest →
      Chosen k l (rest ++ more))

include hmore

/-- What does not change the lexeme that is chosen at any place does not change
how a text splits. -/
theorem Splits.append {ps : List Piece} {rest : List Char} (h : Splits ps rest) :
    Splits ps (rest ++ more) := by
  induction h with
  | nil rest => exact .nil _
  | cons hp hchosen _ ih => exact .cons hp (textOf_append _ _ _ ▸ hmore hchosen) ih

/-- A split goes on to hold when the text goes on, where the last lexeme does
not run on into it. -/
theorem SplitsUpTo.append {cs rest : List Char} {ps : List Piece} (h : SplitsUpTo cs ps rest) :
    SplitsUpTo (cs ++ more) ps (rest ++ more) := by
  obtain ⟨blanks, hblanks, hsplits, rfl⟩ := h
  refine ⟨blanks, hblanks, ?_, ?_⟩
  · rw [← List.append_assoc]
    exact hsplits.append hmore
  · rw [← textOf_append, List.append_assoc]

end

/-- The pieces of a split give their tokens, one each. -/
theorem scan_of_splits {ps : List Piece} {rest : List Char} (h : Splits ps rest) :
    scan (textOf ps rest) = (scan rest).map (ps.map Piece.token ++ ·) := by
  induction h with
  | nil rest =>
    show scan rest = _
    cases scan rest <;> rfl
  | @cons p ps rest hp hchosen _ ih =>
    rw [textOf, scan_append_of_blank hp, scan_of_chosen hchosen, ih]
    cases scan rest <;> rfl

/-- The tokenizer follows the split of a text. -/
theorem scan_of_splitsUpTo {cs rest : List Char} {ps : List Piece} (h : SplitsUpTo cs ps rest) :
    scan cs = (scan rest).map (ps.map Piece.token ++ ·) := by
  obtain ⟨blanks, hblanks, hsplits, rfl⟩ := h
  rw [scan_of_splits hsplits, scan_append_of_blank hblanks]

/-! ## Every text splits -/

/-- A text of which nothing has been taken yet is split up to its beginning. -/
theorem SplitsUpTo.refl (cs : List Char) : SplitsUpTo cs [] cs :=
  ⟨[], by simp, .nil cs, rfl⟩

/-- One more blank character belongs to the first piece, or to those at the end. -/
theorem SplitsUpTo.cons_blank {c : Char} {cs rest : List Char} {ps : List Piece}
    (hc : Text.isBlank c = true) (h : SplitsUpTo cs ps rest) :
    ∃ qs, SplitsUpTo (c :: cs) qs rest := by
  obtain ⟨blanks, hblanks, hsplits, rfl⟩ := h
  cases hsplits with
  | nil => exact ⟨[], c :: blanks, List.forall_mem_cons.mpr ⟨hc, hblanks⟩, .nil _, rfl⟩
  | @cons p ps _ hp hchosen h =>
    have hp' : ∀ d ∈ c :: p.blanks, Text.isBlank d = true := List.forall_mem_cons.mpr ⟨hc, hp⟩
    exact ⟨⟨c :: p.blanks, p.kind, p.lexeme⟩ :: ps, blanks, hblanks, .cons hp' hchosen h, rfl⟩

/-- One more lexeme is a piece of its own. -/
theorem SplitsUpTo.cons_chosen {k : LexemeClass} {l cs rest : List Char} {ps : List Piece}
    (hchosen : Chosen k l cs) (h : SplitsUpTo cs ps rest) :
    SplitsUpTo (l ++ cs) (⟨[], k, l⟩ :: ps) rest := by
  obtain ⟨blanks, hblanks, hsplits, rfl⟩ := h
  exact ⟨blanks, hblanks, .cons (by simp) hchosen hsplits, rfl⟩

/-- Every text splits up to its end or up to a character that starts no lexeme. -/
theorem exists_splitsUpTo (cs : List Char) : ∃ ps rest, SplitsUpTo cs ps rest ∧ Stuck rest := by
  induction cs using scan.induct with
  | case1 => exact ⟨[], [], .refl [], .inl rfl⟩
  | case2 c cs hc ih =>
    obtain ⟨ps, rest, hps, hrest⟩ := ih
    obtain ⟨qs, hqs⟩ := hps.cons_blank hc
    exact ⟨qs, rest, hqs, hrest⟩
  | case3 c cs hc fault hnext =>
    have hc : Text.isBlank c = false := by simpa using hc
    exact ⟨[], c :: cs, .refl _, .inr ⟨c, cs, rfl, hc, (absent_of_next_error hnext).2⟩⟩
  | case4 c cs hc token after hnext _ ih =>
    obtain ⟨ps, rest, hps, hrest⟩ := ih
    obtain ⟨k, l, heq, hchosen, -⟩ := chosen_of_next hnext
    rw [heq]
    exact ⟨⟨[], k, l⟩ :: ps, rest, hps.cons_chosen hchosen, hrest⟩

/-! ## The outcome -/

theorem ne_endMark (p : Piece) : p.token ≠ Token.endMark := by
  obtain ⟨blanks, kind, lexeme⟩ := p
  cases kind <;> exact fun h => nomatch congrArg Token.kind h

/-- The mark of the end is not among the tokens of the pieces. -/
theorem endMark_not_mem (ps : List Piece) : Token.endMark ∉ ps.map Piece.token := by
  intro hmem
  obtain ⟨p, -, hp⟩ := List.mem_map.mp hmem
  exact ne_endMark p hp

/-- A text is scanned if it can be split to its end, and its tokens are then
those of the pieces. -/
theorem scan_eq_ok_iff {cs : List Char} {ts : List Token} :
    scan cs = .ok ts ↔
      ∃ ps, SplitsUpTo cs ps [] ∧ ts = ps.map Piece.token ++ [Token.endMark] := by
  constructor
  · intro h
    obtain ⟨ps, rest, hps, rfl | ⟨c, after, rfl, hc, habsent⟩⟩ := exists_splitsUpTo cs
    · rw [scan_of_splitsUpTo hps, scan_nil] at h
      exact ⟨ps, hps, (Except.ok.inj h).symm⟩
    · rw [scan_of_splitsUpTo hps, scan_of_absent hc habsent] at h
      cases h
  · rintro ⟨ps, hps, rfl⟩
    rw [scan_of_splitsUpTo hps, scan_nil]
    rfl

/-- Else there is a first place, behind which nothing can be taken as a lexeme, and its
character is reported. -/
theorem scan_eq_error_iff {cs : List Char} {e : Fault} :
    scan cs = .error e ↔ ∃ ps c rest, SplitsUpTo cs ps (c :: rest) ∧ Text.isBlank c = false ∧
      (∀ k : LexemeClass, k.Absent (c :: rest)) ∧ e = faultOf c := by
  constructor
  · intro h
    obtain ⟨ps, rest, hps, rfl | ⟨c, after, rfl, hc, habsent⟩⟩ := exists_splitsUpTo cs
    · rw [scan_of_splitsUpTo hps, scan_nil] at h
      cases h
    · rw [scan_of_splitsUpTo hps, scan_of_absent hc habsent] at h
      exact ⟨ps, c, after, hps, hc, habsent, (Except.error.inj h).symm⟩
  · rintro ⟨ps, c, rest, hps, hc, habsent, rfl⟩
    rw [scan_of_splitsUpTo hps, scan_of_absent hc habsent]
    rfl

/-- Only a quotation mark is not reported as unknown. -/
theorem faultOf_eq_unknownCharacter_iff {c d : Char} :
    faultOf c = .unknownCharacter d ↔ c = d ∧ d ≠ '"' := by
  unfold faultOf
  split
  · next hc => simp [hc, eq_comm]
  · next hc =>
    rw [Fault.unknownCharacter.injEq]
    exact ⟨fun h => ⟨h, h ▸ hc⟩, And.left⟩

/-- A quotation mark alone is reported as a text without an end. -/
theorem faultOf_eq_unterminatedText_iff {c : Char} :
    faultOf c = .unterminatedText ↔ c = '"' := by
  unfold faultOf
  split
  · next hc => simp [hc]
  · next hc => simp [hc]

/-- No lexeme starts with a quote exactly where there is no other quote behind it. -/
theorem absent_quote_iff {rest : List Char} :
    (∀ k : LexemeClass, k.Absent ('"' :: rest)) ↔ '"' ∉ rest := by
  constructor
  · intro h hmem
    -- up to the next quote there would be a quoted text
    obtain ⟨text, after, rfl, htext⟩ := List.eq_append_cons_of_mem hmem
    exact h .quoted ('"' :: text ++ ['"']) ⟨after, by simp⟩ (.quoted htext)
  · intro h k
    by_cases hk : k = .quoted
    · exact hk ▸ absent_quoted h
    · refine LexemeClass.absent_of_starts ?_
      revert hk
      cases k <;> decide

/-- The tokens of a formula are those of the lexemes into which it splits, and one mark at their
end. A formula has no tokens because of a character that starts no lexeme, or because of a quote
that no other quote follows. -/
theorem tokenize_lexical_grammar (formula : String) :
    (∀ ts, tokenize formula = .ok ts ↔
      ∃ ps, SplitsUpTo formula.toList ps [] ∧ ts = ps.map Piece.token ++ [Token.endMark] ∧
        Token.endMark ∉ ps.map Piece.token) ∧
    (∀ c, tokenize formula = .error (.unknownCharacter c) ↔
      ∃ ps rest, SplitsUpTo formula.toList ps (c :: rest) ∧ Text.isBlank c = false ∧ c ≠ '"' ∧
        ∀ k : LexemeClass, k.Absent (c :: rest)) ∧
    (tokenize formula = .error .unterminatedText ↔
      ∃ ps rest, SplitsUpTo formula.toList ps ('"' :: rest) ∧ '"' ∉ rest) := by
  refine ⟨fun ts => scan_eq_ok_iff.trans ?_, fun c => scan_eq_error_iff.trans ?_,
    scan_eq_error_iff.trans ?_⟩
  · constructor
    · rintro ⟨ps, hps, hts⟩
      exact ⟨ps, hps, hts, endMark_not_mem ps⟩
    · rintro ⟨ps, hps, hts, -⟩
      exact ⟨ps, hps, hts⟩
  · constructor
    · rintro ⟨ps, d, rest, hps, hd, habsent, hfault⟩
      obtain ⟨rfl, hne⟩ := faultOf_eq_unknownCharacter_iff.mp hfault.symm
      exact ⟨ps, rest, hps, hd, hne, habsent⟩
    · rintro ⟨ps, rest, hps, hc, hne, habsent⟩
      exact ⟨ps, c, rest, hps, hc, habsent,
        (faultOf_eq_unknownCharacter_iff.mpr ⟨rfl, hne⟩).symm⟩
  · constructor
    · rintro ⟨ps, c, rest, hps, -, habsent, hfault⟩
      obtain rfl := faultOf_eq_unterminatedText_iff.mp hfault.symm
      exact ⟨ps, rest, hps, absent_quote_iff.mp habsent⟩
    · rintro ⟨ps, rest, hps, hrest⟩
      exact ⟨ps, '"', rest, hps, by decide, absent_quote_iff.mpr hrest, rfl⟩

/-! ## Blank ends -/

/-- Blank characters at the end of a text change nothing, even within a quoted
text that is not closed. -/
theorem scan_append_blank {blanks : List Char} (h : ∀ c ∈ blanks, Text.isBlank c = true)
    (cs : List Char) : scan (cs ++ blanks) = scan cs := by
  obtain ⟨ps, rest, hps, hrest⟩ := exists_splitsUpTo cs
  have hlong : SplitsUpTo (cs ++ blanks) ps (rest ++ blanks) :=
    hps.append fun hk => hk.append_blank h
  have hstuck : scan (rest ++ blanks) = scan rest := by
    rcases hrest with rfl | ⟨c, after, rfl, hc, habsent⟩
    · simpa using scan_append_of_blank h []
    · rw [scan_of_absent hc habsent]
      exact scan_of_absent hc fun k => (habsent k).append_blank h
  rw [scan_of_splitsUpTo hlong, hstuck, scan_of_splitsUpTo hps]

/-- A text is what trimming leaves of it, with blank characters at either end. -/
theorem exists_blank_ends (cs : List Char) :
    ∃ front back, (∀ c ∈ front, Text.isBlank c = true) ∧
    (∀ c ∈ back, Text.isBlank c = true) ∧ cs = front ++ (Text.trim cs ++ back) := by
  refine ⟨cs.takeWhile Text.isBlank,
    ((Text.trimStart cs).reverse.takeWhile Text.isBlank).reverse,
    fun c hc => List.mem_takeWhile_imp hc,
    fun c hc => List.mem_takeWhile_imp (List.mem_reverse.mp hc), ?_⟩
  rw [Text.trim, Text.trimEnd, ← List.reverse_append, List.takeWhile_append_dropWhile,
    List.reverse_reverse, Text.trimStart, List.takeWhile_append_dropWhile]

/-- Blank ends of a formula do not count. -/
theorem tokenize_trim (formula : String) :
    tokenize (.ofList (Text.trim formula.toList)) = tokenize formula := by
  obtain ⟨front, back, hfront, hback, heq⟩ := exists_blank_ends formula.toList
  calc
    tokenize (.ofList (Text.trim formula.toList))
      = scan (Text.trim formula.toList) := by rw [tokenize, String.toList_ofList]
    _ = scan (front ++ (Text.trim formula.toList ++ back)) := by
      rw [scan_append_of_blank hfront, scan_append_blank hback]
    _ = scan formula.toList := by rw [← heq]

end Formula

end Spreadsheet
