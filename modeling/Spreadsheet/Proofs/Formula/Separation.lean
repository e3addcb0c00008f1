import Spreadsheet.Proofs.Formula.Spacing

/-!
# Blank characters between two texts

A blank character separates what stands before it from what stands behind it: the tokenizer
looks at neither side when it splits the other. Only a quoted text may go on behind it, and only
if its closing quote stands there.

- `Contains.prefix_of_separated`: no other lexeme reaches past a blank character.
- `Chosen.separated`, `SplitsUpTo.separated`: so the text before it splits the same
  way, whatever comes then.
- `tokenize_separated`: the tokens of two texts with blank characters between them.
-/

namespace Spreadsheet

namespace Formula

open Lexeme

variable {blank : Char} {more : List Char}

namespace LexemeClass

variable {k : LexemeClass} {m cs : List Char}

/-- Only a quoted text has blank characters in it. -/
theorem Contains.not_isBlank (h : k.Contains m) (hk : k ≠ .quoted) :
    ∀ c ∈ m, (!Text.isBlank c) = true := by
  intro c hc
  by_contra hblank
  have hblank : Text.isBlank c = true := by simpa using hblank
  have hword : isWord c = false := isWord_of_isBlank hblank
  have hsymbol : c ∉ symbols := fun hc =>
    Bool.false_ne_true ((isBlank_of_mem_symbols hc).symm.trans hblank)
  cases k with
  | number => exact Bool.false_ne_true (hword.symm.trans (isWord_of_number h c hc))
  | notEqual =>
    cases h with
    | notEqual =>
      have hsymbols : ∀ d ∈ ['<', '>'], d ∈ symbols := List.forall_iff_forall_mem.mp (by decide)
      exact hsymbol (hsymbols c hc)
  | symbol =>
    cases h with
    | symbol hd => exact hsymbol (List.mem_singleton.mp hc ▸ hd)
  | reference => exact Bool.false_ne_true (hword.symm.trans (isWord_of_reference h c hc))
  | name => exact Bool.false_ne_true (hword.symm.trans (isWord_of_name h c hc))
  | quoted => exact hk rfl

/-- Other lexemes do not reach past a blank character. -/
theorem Contains.prefix_of_separated (h : k.Contains m) (hk : k ≠ .quoted)
    (hblank : Text.isBlank blank = true) (hm : m <+: cs ++ blank :: more) : m <+: cs := by
  refine prefix_of_stop (h.not_isBlank hk) (fun c hc => ?_) hm
  obtain rfl : blank = c := by simpa using hc
  rw [hblank]
  rfl

theorem Absent.separated (h : k.Absent cs) (hk : k ≠ .quoted)
    (hblank : Text.isBlank blank = true) : k.Absent (cs ++ blank :: more) :=
  fun m hm hkm => h m (hkm.prefix_of_separated hk hblank hm) hkm

end LexemeClass

/-- What stands behind a blank character does not change what stands at the start of a text. -/
theorem Chosen.separated {k : LexemeClass} {l rest : List Char} (h : Chosen k l rest)
    (hblank : Text.isBlank blank = true) : Chosen k l (rest ++ blank :: more) := by
  by_cases hk : k = .quoted
  · subst hk
    cases h.contains with
    | quoted htext => exact .ofQuoted htext _
  · refine ⟨h.contains, fun m hm hkm => ?_, fun j hj => ?_⟩
    · rw [← List.append_assoc] at hm
      exact h.longest m (hkm.prefix_of_separated hk hblank hm) hkm
    · -- quoted texts are tried last
      have hquoted : j ≠ .quoted := by
        rintro rfl
        revert hj
        cases k <;> decide
      rw [← List.append_assoc]
      exact (h.first j hj).separated hquoted hblank

/-- The text before a blank character splits the same way, whatever stands behind. -/
theorem SplitsUpTo.separated {cs rest : List Char} {ps : List Piece} (h : SplitsUpTo cs ps rest)
    (hblank : Text.isBlank blank = true) :
    SplitsUpTo (cs ++ blank :: more) ps (rest ++ blank :: more) :=
  h.append fun hk => hk.separated hblank

theorem scan_separated {cs : List Char} {ts : List Token} (h : scan cs = .ok ts)
    (hblank : Text.isBlank blank = true) :
    ∃ us, ts = us ++ [Token.endMark] ∧ Token.endMark ∉ us ∧
      scan (cs ++ blank :: more) = (scan more).map (us ++ ·) := by
  obtain ⟨ps, hps, rfl⟩ := scan_eq_ok_iff.mp h
  refine ⟨ps.map Piece.token, rfl, endMark_not_mem ps, ?_⟩
  rw [scan_of_splitsUpTo (hps.separated hblank), List.nil_append, scan_of_blank hblank]

/-- A character that starts no lexeme starts none because of what stands behind a blank
character, except for a quote. -/
theorem scan_separated_of_unknown {cs : List Char} {c : Char}
    (h : scan cs = .error (.unknownCharacter c)) (hblank : Text.isBlank blank = true) :
    scan (cs ++ blank :: more) = .error (.unknownCharacter c) := by
  obtain ⟨ps, d, rest, hps, hd, habsent, hfault⟩ := scan_eq_error_iff.mp h
  obtain ⟨rfl, hquote⟩ := faultOf_eq_unknownCharacter_iff.mp hfault.symm
  refine scan_eq_error_iff.mpr
    ⟨ps, d, rest ++ blank :: more, hps.separated hblank, hd, fun k => ?_, hfault⟩
  by_cases hk : k = .quoted
  · subst hk
    exact LexemeClass.absent_of_starts (decide_eq_false hquote)
  · exact (habsent k).separated hk hblank

/-- Two texts with blank characters between them are split one after the other. If the first one
has tokens, those of the second one follow them, or the second one's fault is that of both. A
character that starts no lexeme in the first one is the fault of both. At either end of a text
blank characters do not count, neither for its tokens nor for the value of the formula. -/
theorem tokenize_separated (a b between : String) (hne : between ≠ "")
    (hblank : ∀ c ∈ between.toList, Text.isBlank c = true) :
    (∀ ts, tokenize a = .ok ts → ∃ us, ts = us ++ [Token.endMark] ∧ Token.endMark ∉ us ∧
      tokenize (a ++ between ++ b) = (tokenize b).map (us ++ ·)) ∧
    (∀ c, tokenize a = .error (.unknownCharacter c) →
      tokenize (a ++ between ++ b) = .error (.unknownCharacter c)) ∧
    tokenize (between ++ a) = tokenize a ∧ tokenize (a ++ between) = tokenize a ∧
    ∀ cells limit body,
      evaluate cells limit body = evaluate cells limit (Text.trimmed body) := by
  obtain ⟨blank, blanks, hbetween⟩ : ∃ blank blanks, between.toList = blank :: blanks :=
    List.exists_cons_of_ne_nil fun h => hne (String.toList_eq_nil_iff.mp h)
  obtain ⟨hfirst, hblanks⟩ := List.forall_mem_cons.mp (hbetween ▸ hblank)
  have hmore : scan (blanks ++ b.toList) = tokenize b := scan_append_of_blank hblanks b.toList
  have htext : (a ++ between ++ b).toList = a.toList ++ blank :: (blanks ++ b.toList) := by
    rw [String.toList_append, String.toList_append, hbetween, List.append_assoc,
      List.cons_append]
  refine ⟨fun ts h => ?_, fun c h => ?_, ?_, ?_, fun cells limit body => ?_⟩
  · obtain ⟨us, hts, hend, hscan⟩ := scan_separated h hfirst
    refine ⟨us, hts, hend, ?_⟩
    rw [tokenize, htext, hscan, hmore]
  · rw [tokenize, htext]
    exact scan_separated_of_unknown h hfirst
  · rw [tokenize, String.toList_append]
    exact scan_append_of_blank hblank a.toList
  · rw [tokenize, String.toList_append]
    exact scan_append_blank hblank a.toList
  · rw [evaluate, evaluate, read, read, Text.trimmed, tokenize_trim]

/-- With a blank character between them, the two characters of `<>` are two tokens. -/
theorem tokenize_separated_signs :
    tokenize "<" = .ok [⟨.operator, "<"⟩, Token.endMark] ∧
    tokenize "#" = .error (.unknownCharacter '#') ∧
      tokenize ("<" ++ " " ++ ">") = .ok [⟨.operator, "<"⟩, ⟨.operator, ">"⟩, Token.endMark] ∧
      tokenize ("#" ++ " " ++ ">") = .error (.unknownCharacter '#') := by
  have hne : " " ≠ "" := by decide
  have hblank : ∀ c ∈ " ".toList, Text.isBlank c = true := List.all_eq_true.mp rfl
  have hsymbol {c : Char} (hc : c ∈ symbols) :
      scan [c] = .ok [⟨.operator, .ofList [c]⟩, Token.endMark] := by
    have hchosen : Chosen .symbol [c] [] := .ofSymbol hc (absent_notEqual nofun)
    rw [← List.append_nil [c], scan_of_chosen hchosen, scan_nil]
    rfl
  have hless : tokenize "<" = .ok [⟨.operator, "<"⟩, Token.endMark] := hsymbol (by decide)
  have hgreater : tokenize ">" = .ok [⟨.operator, ">"⟩, Token.endMark] := hsymbol (by decide)
  have hunknown : tokenize "#" = .error (.unknownCharacter '#') :=
    scan_of_absent (by decide) fun k => LexemeClass.absent_of_starts (by cases k <;> decide)
  obtain ⟨us, hus, -, htokens⟩ := (tokenize_separated "<" ">" " " hne hblank).1 _ hless
  refine ⟨hless, hunknown, ?_, (tokenize_separated "#" ">" " " hne hblank).2.1 _ hunknown⟩
  obtain rfl : [⟨.operator, "<"⟩] = us := (List.append_inj' hus rfl).1
  rw [htokens, hgreater]
  rfl

end Formula

end Spreadsheet
