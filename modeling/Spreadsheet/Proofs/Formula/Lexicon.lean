import Mathlib.Data.List.Infix
import Mathlib.Data.List.TakeWhile
import Spreadsheet.Formula.Lexeme
import Spreadsheet.Proofs.Address

/-!
# The lexicon of formulas

Which texts are lexemes, and which lexeme is the one at the start of a text, apart from how it
is found. The classes are tried in a fixed order, and of a class the longest lexeme is taken.

- `LexemeClass`, `LexemeClass.Contains`: the classes and their lexemes.
- `LexemeClass.Absent`: no lexeme of a class starts a text.
- `Chosen`: the lexeme at the start of a text, by priority and longest match; there is at
  most one (`Chosen.unique`).
- `chosen_of_next`, `absent_of_next_error`: `Lexeme.next` finds it, or there is none.
- `Chosen.append_blank`, `Absent.append_blank`: blank characters at the end of a
  text change nothing.
-/

namespace Spreadsheet

namespace Formula

/-- The classes of lexemes. -/
inductive LexemeClass where
  | number
  | notEqual
  | symbol
  | reference
  | name
  | quoted
deriving DecidableEq, Repr

namespace LexemeClass

/-- The place of a class in the order in which they are tried. -/
def rank : LexemeClass → Nat
  | number => 0
  | notEqual => 1
  | symbol => 2
  | reference => 3
  | name => 4
  | quoted => 5

/-- No two classes are tried at the same time. -/
theorem rank_injective {k j : LexemeClass} (h : k.rank = j.rank) : k = j := by
  revert h
  cases k <;> cases j <;> decide

/-- The lexemes of a class. -/
inductive Contains : LexemeClass → List Char → Prop
  | digits {ds : List Char} (hne : ds ≠ []) (hds : ∀ c ∈ ds, c.isDigit = true) :
      Contains number ds
  | pointed {ds es : List Char} (hds : ∀ c ∈ ds, c.isDigit = true)
      (hes : ∀ c ∈ es, c.isDigit = true) : Contains number (ds ++ '.' :: es)
  | notEqual : Contains notEqual ['<', '>']
  | symbol {c : Char} (hc : c ∈ Lexeme.symbols) : Contains symbol [c]
  | reference (colMarked rowMarked : Bool) {letters digits : List Char}
      (hletters : letters ≠ [])
      (halpha : ∀ c ∈ letters, c.isAlpha = true) (hdigits : digits ≠ [])
      (hdigit : ∀ c ∈ digits, c.isDigit = true) :
      Contains reference
        (Address.markText colMarked ++ letters ++ Address.markText rowMarked ++ digits)
  | name {letters : List Char} (hletters : letters ≠ [])
      (halpha : ∀ c ∈ letters, c.isAlpha = true) : Contains name letters
  | quoted {text : List Char} (htext : '"' ∉ text) : Contains quoted ('"' :: text ++ ['"'])

/-- No lexeme of the class starts the text. -/
def Absent (k : LexemeClass) (cs : List Char) : Prop := ∀ m, m <+: cs → ¬ k.Contains m

/-- The token of a lexeme: its text, without the quotes if it is a quoted one. -/
def token : LexemeClass → List Char → Token
  | number, l => ⟨.number, .ofList l⟩
  | notEqual, l | symbol, l => ⟨.operator, .ofList l⟩
  | reference, l => ⟨.reference, .ofList l⟩
  | name, l => ⟨.function, .ofList l⟩
  | quoted, l => ⟨.characters, .ofList l.tail.dropLast⟩

/-! ## First and last characters -/

/-- No symbol is blank. -/
theorem isBlank_of_mem_symbols {c : Char} (h : c ∈ Lexeme.symbols) :
    Text.isBlank c = false := by
  have hall : ∀ c ∈ Lexeme.symbols, Text.isBlank c = false :=
    List.forall_iff_forall_mem.mp (by decide)
  exact hall c h

/-- The characters that start a lexeme of the class. -/
def starts : LexemeClass → Char → Bool
  | number, c => c.isDigit || c = '.'
  | notEqual, c => c = '<'
  | symbol, c => Lexeme.symbols.contains c
  | reference, c => c = '$' || c.isAlpha
  | name, c => c.isAlpha
  | quoted, c => c = '"'

variable {k : LexemeClass} {m : List Char}

theorem starts_of_forall {p : Char → Bool} (hm : m ≠ []) (h : ∀ c ∈ m, p c = true) :
    ∃ c cs, m = c :: cs ∧ p c = true := by
  obtain ⟨c, cs, rfl⟩ := List.exists_cons_of_ne_nil hm
  exact ⟨c, cs, rfl, h c List.mem_cons_self⟩

/-- A text of a class begins as texts of the class do. -/
theorem Contains.starts (h : k.Contains m) : ∃ c cs, m = c :: cs ∧ k.starts c = true := by
  cases h with
  | digits hne hds =>
    obtain ⟨c, cs, rfl, hc⟩ := starts_of_forall hne hds
    exact ⟨c, cs, rfl, by simp [LexemeClass.starts, hc]⟩
  | @pointed ds es hds hes =>
    cases ds with
    | nil => exact ⟨'.', es, rfl, by decide⟩
    | cons c cs => exact ⟨c, _, rfl, by simp [LexemeClass.starts, hds c List.mem_cons_self]⟩
  | notEqual => exact ⟨'<', ['>'], rfl, by decide⟩
  | @symbol c hc => exact ⟨c, [], rfl, List.contains_iff_mem.mpr hc⟩
  | reference colMarked rowMarked hletters halpha hdigits hdigit =>
    obtain ⟨c, cs, rfl, hc⟩ := starts_of_forall hletters halpha
    cases colMarked with
    | true => exact ⟨'$', _, rfl, by decide⟩
    | false => exact ⟨c, _, rfl, by simp [LexemeClass.starts, hc]⟩
  | name hletters halpha => exact starts_of_forall hletters halpha
  | quoted => exact ⟨'"', _, rfl, by decide⟩

/-- A class is absent where a character stands that starts none of its lexemes. -/
theorem absent_of_starts {c : Char} {cs : List Char} (h : k.starts c = false) :
    k.Absent (c :: cs) := by
  intro m hm hk
  obtain ⟨d, ds, rfl, hd⟩ := hk.starts
  obtain rfl : d = c := (List.cons_prefix_cons.mp hm).1
  rw [h] at hd
  cases hd

/-- Classes with the same number have lexemes that may start with the same character. -/
def group : LexemeClass → Nat
  | number => 0
  | notEqual | symbol => 1
  | reference | name => 2
  | quoted => 3

/-- The group of the lexemes that may start with the character. -/
def groupOf (c : Char) : Nat :=
  if number.starts c then 0
  else if symbol.starts c then 1
  else if reference.starts c then 2
  else 3

theorem groupOf_of_isAlpha {c : Char} (h : c.isAlpha = true) : groupOf c = 2 := by
  have hnumber : number.starts c = false := by
    have hpoint : c ≠ '.' := by
      rintro rfl
      exact absurd h (by decide)
    simp [LexemeClass.starts, Text.isDigit_of_isAlpha h, hpoint]
  have hsymbol : symbol.starts c = false := by
    have hall : ∀ c ∈ Lexeme.symbols, c.isAlpha = false :=
      List.forall_iff_forall_mem.mp (by decide)
    by_contra hc
    have hc : symbol.starts c = true := by simpa using hc
    rw [hall c (List.contains_iff_mem.mp hc)] at h
    cases h
  have hreference : reference.starts c = true := by simp [LexemeClass.starts, h]
  rw [groupOf, hnumber, hsymbol, hreference]
  rfl

/-- The group of a class is the one of the characters with which its texts begin. -/
theorem groupOf_of_starts {c : Char} (h : k.starts c = true) : groupOf c = k.group := by
  cases k with
  | number => exact if_pos h
  | notEqual =>
    obtain rfl : c = '<' := by simpa [LexemeClass.starts] using h
    decide
  | symbol =>
    have hall : ∀ c ∈ Lexeme.symbols, groupOf c = 1 := List.forall_iff_forall_mem.mp (by decide)
    exact hall c (List.contains_iff_mem.mp h)
  | reference =>
    rcases Bool.or_eq_true_iff.mp h with h | h
    · obtain rfl : c = '$' := by simpa using h
      decide
    · exact groupOf_of_isAlpha h
  | name => exact groupOf_of_isAlpha h
  | quoted =>
    obtain rfl : c = '"' := by simpa [LexemeClass.starts] using h
    decide

/-- Where a lexeme of one group may start, all classes of other groups are absent. -/
theorem absent_of_group {j : LexemeClass} {c : Char} (h : k.starts c = true)
    (hne : j.group ≠ k.group) (cs : List Char) : j.Absent (c :: cs) := by
  refine absent_of_starts ?_
  by_contra hj
  exact hne ((groupOf_of_starts (by simpa using hj)).symm.trans (groupOf_of_starts h))

/-- Where a lexeme of a class may start, the classes that are tried before are absent, unless
the class comes second in its group. -/
theorem absent_of_rank {j : LexemeClass} {c : Char} (h : k.starts c = true)
    (hj : j.rank < k.rank)
    (hk : k ≠ symbol ∧ k ≠ name) (cs : List Char) : j.Absent (c :: cs) := by
  refine absent_of_group h ?_ cs
  revert hj hk
  cases k <;> cases j <;> decide

/-- Where a name may start, only a reference may be tried before. -/
theorem absent_of_rank_name {j : LexemeClass} {c : Char} (h : name.starts c = true)
    (hj : j.rank < name.rank) (hne : j ≠ reference) (cs : List Char) : j.Absent (c :: cs) := by
  refine absent_of_group h ?_ cs
  revert hj hne
  cases j <;> decide

/-- No blank character starts a lexeme. -/
theorem isBlank_of_starts {c : Char} (h : k.starts c = true) : Text.isBlank c = false := by
  have hother {d : Char} (hc : c = d) (hd : Text.isBlank d = false) : Text.isBlank c = false :=
    hc ▸ hd
  cases k <;> simp only [LexemeClass.starts, Bool.or_eq_true, decide_eq_true_eq] at h
  case number => exact h.elim Text.isBlank_of_isDigit fun h => hother h (by decide)
  case notEqual => exact hother h (by decide)
  case symbol => exact isBlank_of_mem_symbols (List.contains_iff_mem.mp h)
  case reference => exact h.elim (fun h => hother h (by decide)) Text.isBlank_of_isAlpha
  case name => exact Text.isBlank_of_isAlpha h
  case quoted => exact hother h (by decide)

theorem ends_of_forall {p : Char → Bool} (hm : m ≠ []) (h : ∀ c ∈ m, p c = true) :
    ∃ cs c, m = cs ++ [c] ∧ p c = true :=
  ⟨m.dropLast, m.getLast hm, (List.dropLast_append_getLast hm).symm, h _ (List.getLast_mem hm)⟩

/-- No blank character ends a lexeme, though one may stand within a quoted text. -/
theorem Contains.ends (h : k.Contains m) : ∃ cs c, m = cs ++ [c] ∧ Text.isBlank c = false := by
  cases h with
  | digits hne hds =>
    obtain ⟨cs, c, rfl, hc⟩ := ends_of_forall hne hds
    exact ⟨cs, c, rfl, Text.isBlank_of_isDigit hc⟩
  | @pointed ds es hds hes =>
    by_cases hne : es = []
    · exact ⟨ds, '.', by rw [hne], by decide⟩
    · obtain ⟨cs, c, rfl, hc⟩ := ends_of_forall hne hes
      exact ⟨ds ++ '.' :: cs, c, by simp, Text.isBlank_of_isDigit hc⟩
  | notEqual => exact ⟨['<'], '>', rfl, by decide⟩
  | @symbol c hc => exact ⟨[], c, rfl, isBlank_of_mem_symbols hc⟩
  | reference colMarked rowMarked hletters halpha hdigits hdigit =>
    obtain ⟨cs, c, rfl, hc⟩ := ends_of_forall hdigits hdigit
    exact ⟨_, c, (List.append_assoc _ cs [c]).symm, Text.isBlank_of_isDigit hc⟩
  | name hletters halpha =>
    obtain ⟨cs, c, rfl, hc⟩ := ends_of_forall hletters halpha
    exact ⟨cs, c, rfl, Text.isBlank_of_isAlpha hc⟩
  | @quoted text htext => exact ⟨'"' :: text, '"', rfl, by decide⟩

/-- A lexeme at the start of a text with blank characters at its end does not reach them. -/
theorem Contains.prefix_of_append_blank (h : k.Contains m) {cs blanks : List Char}
    (hblanks : ∀ c ∈ blanks, Text.isBlank c = true) (hm : m <+: cs ++ blanks) : m <+: cs := by
  rcases List.prefix_or_prefix_of_prefix hm (List.prefix_append cs blanks) with hshort | hlong
  · exact hshort
  obtain ⟨ws, rfl⟩ := hlong
  by_cases hws : ws = []
  · rw [hws, List.append_nil]
  -- otherwise the last character of the lexeme is one of them
  have hws' : ws <+: blanks := (List.prefix_append_right_inj cs).mp hm
  obtain ⟨us, c, rfl, hc⟩ := ends_of_forall hws fun c hc => hblanks c (hws'.mem hc)
  obtain ⟨vs, d, heq, hd⟩ := h.ends
  rw [← List.append_assoc] at heq
  obtain rfl : c = d := List.singleton_inj.mp (List.append_inj' heq rfl).2
  rw [hc] at hd
  cases hd

/-- Blank characters behind a text add no lexeme to it. -/
theorem Absent.append_blank {cs blanks : List Char} (h : k.Absent cs)
    (hblanks : ∀ c ∈ blanks, Text.isBlank c = true) : k.Absent (cs ++ blanks) :=
  fun m hm hk => h m (hk.prefix_of_append_blank hblanks hm) hk

end LexemeClass

/-! ## The lexeme at the start of a text -/

/-- `l` is the lexeme at the start of the text `l ++ rest`, and `k` is its class: no class that
is tried before has a lexeme there, and the class itself has no longer one. -/
structure Chosen (k : LexemeClass) (l rest : List Char) : Prop where
  contains : k.Contains l
  longest : ∀ m, m <+: l ++ rest → k.Contains m → m.length ≤ l.length
  first : ∀ j : LexemeClass, j.rank < k.rank → j.Absent (l ++ rest)

namespace Chosen

variable {k j : LexemeClass} {l m rest after : List Char}

/-- The class that is chosen is tried before all others that have a text of this length. -/
theorem rank_le (h : Chosen k l rest) (hm : j.Contains m) (hstart : m <+: l ++ rest) :
    k.rank ≤ j.rank :=
  Nat.le_of_not_lt fun hlt => h.first j hlt m hstart hm

/-- Priority and longest match leave no choice. -/
theorem unique (h : Chosen k l rest) (h' : Chosen j m after) (heq : l ++ rest = m ++ after) :
    k = j ∧ l = m ∧ rest = after := by
  have hl : l <+: m ++ after := heq ▸ List.prefix_append l rest
  have hm : m <+: l ++ rest := heq ▸ List.prefix_append m after
  obtain rfl : k = j :=
    LexemeClass.rank_injective
      (Nat.le_antisymm (h.rank_le h'.contains hm) (h'.rank_le h.contains hl))
  obtain ⟨rfl, rfl⟩ := List.append_inj heq
    (Nat.le_antisymm (h'.longest l hl h.contains) (h.longest m hm h'.contains))
  exact ⟨rfl, rfl, rfl⟩

/-- Blank characters at the end of a text do not change what stands at its start. -/
theorem append_blank (h : Chosen k l rest) {blanks : List Char}
    (hblanks : ∀ c ∈ blanks, Text.isBlank c = true) : Chosen k l (rest ++ blanks) where
  contains := h.contains
  longest m hm hk := by
    rw [← List.append_assoc] at hm
    exact h.longest m (hk.prefix_of_append_blank hblanks hm) hk
  first j hj := by
    rw [← List.append_assoc]
    exact (h.first j hj).append_blank hblanks

end Chosen

/-! ## Each class finds its longest lexeme -/

namespace Lexeme

variable {cs m l after : List Char}

/-- What is taken as a number is one. -/
theorem contains_number {c : Char} (h : c.isDigit = true ∨ c = '.') (cs : List Char) :
    LexemeClass.number.Contains (Lexeme.number (c :: cs)).1 := by
  have htake {ds : List Char} : ∀ d ∈ ds.takeWhile Char.isDigit, d.isDigit = true :=
    fun d hd => List.mem_takeWhile_imp hd
  unfold Lexeme.number
  split
  · exact .pointed htake htake
  · next hpoint =>
    refine .digits ?_ htake
    rcases h with h | rfl
    · simp [h]
    · -- a point in front would have been found
      exact absurd rfl (hpoint cs)

/-- No number at the same place is longer. -/
theorem length_le_number (hm : LexemeClass.number.Contains m) (hstart : m <+: cs) :
    m.length ≤ (Lexeme.number cs).1.length := by
  obtain ⟨rest, rfl⟩ := hstart
  unfold Lexeme.number
  cases hm with
  | digits hne hds =>
    rw [List.takeWhile_append_of_pos hds]
    split <;> simp
  | @pointed ds es hds hes =>
    have hpoint : ('.' : Char).isDigit = false := by decide
    rw [List.append_assoc, List.takeWhile_append_of_pos hds, List.dropWhile_append_of_pos hds,
      List.cons_append, List.dropWhile_cons_of_neg (by simp [hpoint]),
      List.takeWhile_cons_of_neg (by simp [hpoint])]
    simp [List.takeWhile_append_of_pos hes]

/-- What is taken as a reference is one. -/
theorem contains_of_reference? (h : reference? cs = some (l, after)) :
    LexemeClass.reference.Contains l := by
  simp only [reference?] at h
  split at h
  · cases h
  · next hne =>
    simp only [Option.some.injEq, Prod.mk.injEq] at h
    obtain ⟨rfl, -⟩ := h
    simp only [Bool.or_eq_true, List.isEmpty_iff, not_or] at hne
    exact .reference _ _ hne.1 (fun c hc => List.mem_takeWhile_imp hc) hne.2
      fun c hc => List.mem_takeWhile_imp hc

/-- Where a reference stands, one is found that is at least as long. -/
theorem reference?_of_contains (hm : LexemeClass.reference.Contains m) (rest : List Char) :
    ∃ l after, reference? (m ++ rest) = some (l, after) ∧ m.length ≤ l.length := by
  cases hm with
  | @reference colMarked rowMarked letters digits hletters halpha hdigits hdigit =>
  have hwritten :
      Address.Written
        (Address.markText colMarked ++ letters ++ Address.markText rowMarked ++ digits)
      colMarked letters rowMarked digits := ⟨rfl, hletters, halpha, hdigits, hdigit⟩
  obtain ⟨hcol, htake, hdrop, hrow⟩ := hwritten.takeParts rest
  have htaken : (digits ++ rest).takeWhile Char.isDigit =
      digits ++ rest.takeWhile Char.isDigit :=
    List.takeWhile_append_of_pos hdigit
  have hne : (letters.isEmpty || (digits ++ rest.takeWhile Char.isDigit).isEmpty) = false := by
    simp [hletters, hdigits]
  refine ⟨Address.markText colMarked ++ letters ++ Address.markText rowMarked ++
    (digits ++ rest.takeWhile Char.isDigit), (digits ++ rest).dropWhile Char.isDigit, ?_, ?_⟩
  · simp only [reference?, hcol, htake, hdrop, hrow, htaken, hne]
    rfl
  · simp

/-- Where no reference is taken, there is none. -/
theorem absent_reference (h : reference? cs = none) : LexemeClass.reference.Absent cs := by
  rintro m ⟨rest, rfl⟩ hm
  obtain ⟨l, after, hl, -⟩ := reference?_of_contains hm rest
  rw [h] at hl
  cases hl

/-- A mark starts nothing but references. -/
theorem absent_mark (h : reference? ('$' :: cs) = none) (k : LexemeClass) :
    k.Absent ('$' :: cs) := by
  by_cases hk : k = .reference
  · exact hk ▸ absent_reference h
  · refine LexemeClass.absent_of_starts ?_
    revert hk
    cases k <;> decide

/-- No name at the same place is longer. -/
theorem length_le_name (hm : LexemeClass.name.Contains m) (hstart : m <+: cs) :
    m.length ≤ (cs.takeWhile Char.isAlpha).length := by
  obtain ⟨rest, rfl⟩ := hstart
  cases hm with
  | name hletters halpha => simp [List.takeWhile_append_of_pos halpha]

theorem not_mem_of_quoted? (h : quoted? cs = some (l, after)) : '"' ∉ l := by
  unfold quoted? at h
  split at h
  · cases h
  · cases h
    intro hmem
    simpa using List.mem_takeWhile_imp hmem

/-- A text that is not closed has no quotation mark behind the first one. -/
theorem quoted?_eq_none (h : quoted? cs = none) : '"' ∉ cs := by
  unfold quoted? at h
  split at h
  · next hdrop =>
    intro hmem
    simpa using List.dropWhile_eq_nil_iff.mp hdrop _ hmem
  · cases h

/-- What stands before the first quote of a text is given by the text. -/
theorem eq_of_append_quote {text text' rest rest' : List Char} (h : '"' ∉ text)
    (h' : '"' ∉ text') (heq : text ++ '"' :: rest = text' ++ '"' :: rest') : text = text' := by
  have htake {text : List Char} (h : '"' ∉ text) (rest : List Char) :
      (text ++ '"' :: rest).takeWhile (· != '"') = text := by
    have hall : ∀ c ∈ text, (c != '"') = true := by
      intro c hc
      simpa using ne_of_mem_of_not_mem hc h
    simp [List.takeWhile_append_of_pos hall]
  rw [← htake h rest, heq, htake h']

/-- A quoted text ends at the first quotation mark behind its own. -/
theorem length_le_quoted (hl : '"' ∉ l) (hm : LexemeClass.quoted.Contains m)
    (hstart : m <+: '"' :: l ++ ['"'] ++ after) : m.length ≤ ('"' :: l ++ ['"']).length := by
  obtain ⟨rest, heq⟩ := hstart
  cases hm with
  | quoted htext =>
    simp only [List.append_assoc, List.cons_append, List.nil_append, List.cons.injEq,
      true_and] at heq
    rw [eq_of_append_quote htext hl heq]

theorem absent_quoted (h : '"' ∉ cs) : LexemeClass.quoted.Absent ('"' :: cs) := by
  rintro m ⟨rest, heq⟩ hm
  cases hm with
  | quoted htext =>
    simp only [List.append_assoc, List.cons_append, List.cons.injEq, true_and] at heq
    exact h (heq ▸ by simp)

/-- Only `<` with `>` behind it is the sign of two characters. -/
theorem absent_notEqual {c : Char} (h : ¬ (c = '<' ∧ cs.head? = some '>')) :
    LexemeClass.notEqual.Absent (c :: cs) := by
  rintro m ⟨rest, heq⟩ hm
  cases hm with
  | notEqual =>
    obtain ⟨rfl, rfl⟩ := List.cons.inj heq
    exact h ⟨rfl, rfl⟩

end Lexeme

/-! ## The lexeme that is found -/

namespace Chosen

open Lexeme

variable {c : Char} {cs l after : List Char}

/-- The run of digits and points is the longest number. -/
theorem ofNumber (h : LexemeClass.number.starts c = true) (cs : List Char) :
    Chosen .number (number (c :: cs)).1 (number (c :: cs)).2 where
  contains := contains_number (by simpa [LexemeClass.starts] using h) cs
  longest m hm hk := by
    rw [number_append] at hm
    exact length_le_number hk hm
  first j hj := absurd hj (Nat.not_lt_zero _)

theorem ofNotEqual (after : List Char) : Chosen .notEqual ['<', '>'] after where
  contains := .notEqual
  longest m hm hk := by
    cases hk
    exact Nat.le_refl _
  first j hj := by
    have hstarts : LexemeClass.notEqual.starts '<' = true := rfl
    exact LexemeClass.absent_of_rank hstarts hj (by decide) _

/-- A symbol is chosen unless it is the first half of `<>`. -/
theorem ofSymbol (hc : c ∈ symbols) (hne : LexemeClass.notEqual.Absent (c :: cs)) :
    Chosen .symbol [c] cs where
  contains := .symbol hc
  longest m hm hk := by
    cases hk
    exact Nat.le_refl _
  first j hj := by
    cases j with
    | notEqual => exact hne
    | number =>
      have hstarts : LexemeClass.symbol.starts c = true := List.contains_iff_mem.mpr hc
      exact LexemeClass.absent_of_group hstarts (by decide) cs
    | _ => exact absurd hj (by decide)

/-- A reference that is taken is the longest one. -/
theorem ofReference (h : reference? cs = some (l, after)) : Chosen .reference l after where
  contains := contains_of_reference? h
  longest m hm hk := by
    rw [reference?_append h] at hm
    obtain ⟨rest, rfl⟩ := hm
    obtain ⟨l', after', hl', hle⟩ := reference?_of_contains hk rest
    rw [h] at hl'
    cases hl'
    exact hle
  first j hj := by
    obtain ⟨c, cs, rfl, hc⟩ := (contains_of_reference? h).starts
    exact LexemeClass.absent_of_rank hc hj (by decide) _

/-- The run of letters is a name if it does not begin with a reference. -/
theorem ofName (hc : c.isAlpha = true) (h : LexemeClass.reference.Absent (c :: cs)) :
    Chosen .name ((c :: cs).takeWhile Char.isAlpha) ((c :: cs).dropWhile Char.isAlpha) where
  contains := .name (by simp [hc]) fun c hc => List.mem_takeWhile_imp hc
  longest m hm hk := by
    rw [List.takeWhile_append_dropWhile] at hm
    exact length_le_name hk hm
  first j hj := by
    rw [List.takeWhile_append_dropWhile]
    by_cases hj' : j = .reference
    · exact hj' ▸ h
    · have hstarts : LexemeClass.name.starts c = true := hc
      exact LexemeClass.absent_of_rank_name hstarts hj hj' cs

theorem ofQuoted (hl : '"' ∉ l) (after : List Char) :
    Chosen .quoted ('"' :: l ++ ['"']) after where
  contains := .quoted hl
  longest m hm hk := length_le_quoted hl hk hm
  first j hj := by
    have hstarts : LexemeClass.quoted.starts '"' = true := rfl
    exact LexemeClass.absent_of_rank hstarts hj (by decide) _

end Chosen

namespace Lexeme

variable {c : Char} {rest after : List Char} {t : Token}

/-- The lexeme that is found is the one that is chosen. -/
theorem chosen_of_next (h : next c rest = .ok (t, after)) :
    ∃ k l, c :: rest = l ++ after ∧ Chosen k l after ∧ t = k.token l := by
  unfold next at h
  split at h
  · next hc =>
    cases h
    exact ⟨.number, _, (number_append _).symm,
      .ofNumber (by simpa [LexemeClass.starts] using hc) rest, rfl⟩
  split at h
  · next hne =>
    cases h
    obtain ⟨rfl, hhead⟩ := hne
    obtain ⟨after, rfl⟩ := List.head?_eq_some_iff.mp hhead
    exact ⟨.notEqual, ['<', '>'], rfl, .ofNotEqual after, rfl⟩
  next hne =>
  split at h
  · next hc =>
    cases h
    exact ⟨.symbol, [c], rfl,
      .ofSymbol (List.contains_iff_mem.mp hc) (absent_notEqual hne), rfl⟩
  split at h
  · split at h
    · next address tail hr =>
      cases h
      exact ⟨.reference, address, (reference?_append hr).symm, .ofReference hr, rfl⟩
    · next hr =>
      split at h
      · next hc =>
        cases h
        exact ⟨.name, _, List.takeWhile_append_dropWhile.symm,
          .ofName hc (absent_reference hr), rfl⟩
      · cases h
  split at h
  · next hc =>
    subst hc
    split at h
    · next text tail hq =>
      cases h
      refine ⟨.quoted, '"' :: text ++ ['"'], ?_, .ofQuoted (not_mem_of_quoted? hq) after, ?_⟩
      · rw [← quoted?_append hq]
        simp
      · simp [LexemeClass.token]
    · cases h
  · cases h

/-- What is wrong with a character that starts no lexeme. -/
def faultOf (c : Char) : Fault := if c = '"' then .unterminatedText else .unknownCharacter c

/-- Where none is found there is none. -/
theorem absent_of_next_error {e : Fault} (h : next c rest = .error e) :
    e = faultOf c ∧ ∀ k : LexemeClass, k.Absent (c :: rest) := by
  unfold next at h
  split at h
  · cases h
  next hnumber =>
  split at h
  · cases h
  next hne =>
  split at h
  · cases h
  next hsymbol =>
  have hnumber : LexemeClass.number.Absent (c :: rest) :=
    LexemeClass.absent_of_starts (by simpa [LexemeClass.starts] using hnumber)
  have hsymbol : LexemeClass.symbol.Absent (c :: rest) :=
    LexemeClass.absent_of_starts (by simpa [LexemeClass.starts] using hsymbol)
  split at h
  · next hmark =>
    split at h
    · cases h
    next hr =>
    split at h
    · cases h
    next halpha =>
    cases h
    -- only a mark is left
    obtain rfl : c = '$' := by simpa [halpha] using hmark
    exact ⟨rfl, absent_mark hr⟩
  next hword =>
  have hword : c ≠ '$' ∧ c.isAlpha = false := by simpa using hword
  have hreference : LexemeClass.reference.Absent (c :: rest) :=
    LexemeClass.absent_of_starts (by simp [LexemeClass.starts, hword])
  have hname : LexemeClass.name.Absent (c :: rest) :=
    LexemeClass.absent_of_starts (by simp [LexemeClass.starts, hword])
  have hall (hquoted : LexemeClass.quoted.Absent (c :: rest)) (k : LexemeClass) :
      k.Absent (c :: rest) := by
    cases k with
    | number => exact hnumber
    | notEqual => exact absent_notEqual hne
    | symbol => exact hsymbol
    | reference => exact hreference
    | name => exact hname
    | quoted => exact hquoted
  split at h
  · next hc =>
    subst hc
    split at h
    · cases h
    · next hq =>
      cases h
      exact ⟨rfl, hall (absent_quoted (quoted?_eq_none hq))⟩
  · next hc =>
    cases h
    exact ⟨(if_neg hc).symm,
      hall (LexemeClass.absent_of_starts (by simp [LexemeClass.starts, hc]))⟩

/-- A lexeme is found exactly where it is the chosen one. -/
theorem next_of_chosen {k : LexemeClass} {l : List Char} (h : Chosen k l after)
    (heq : c :: rest = l ++ after) : next c rest = .ok (k.token l, after) := by
  cases hnext : next c rest with
  | error e =>
    exact absurd h.contains
      ((absent_of_next_error hnext).2 k l (heq ▸ List.prefix_append l after))
  | ok result =>
    obtain ⟨t, after'⟩ := result
    obtain ⟨j, m, heq', hm, rfl⟩ := chosen_of_next hnext
    obtain ⟨rfl, rfl, rfl⟩ := h.unique hm (heq.symm.trans heq')
    rfl

/-- Where no class has a lexeme, none is found. -/
theorem next_of_absent (h : ∀ k : LexemeClass, k.Absent (c :: rest)) :
    next c rest = .error (faultOf c) := by
  cases hnext : next c rest with
  | error e => rw [(absent_of_next_error hnext).1]
  | ok result =>
    obtain ⟨t, after'⟩ := result
    obtain ⟨j, m, heq, hm, -⟩ := chosen_of_next hnext
    exact absurd hm.contains (h j m (heq ▸ List.prefix_append m after'))

end Lexeme

end Formula

end Spreadsheet
