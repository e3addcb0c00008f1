import Spreadsheet.Address
import Spreadsheet.Formula.Fault
import Spreadsheet.Formula.Token

/-!
# Lexemes

The text of a formula is a sequence of lexemes with blank characters between them where one
likes. At each place the first class that fits is taken, and as many characters as belong to it:
numbers, `<>`, single characters, references, names of functions, quoted texts.

- `Lexeme.number`, `Lexeme.reference?`, `Lexeme.function`, `Lexeme.quoted?`: the longest lexeme
  of a class at the start of a text, and the rest.
- `Lexeme.next`: the lexeme at the start of a text, as a token.
- `tokenize`: all tokens of a text and the mark at its end.
- `number_append`, `reference?_append`, `quoted?_append`: a lexeme and the rest are the text.
- `length_le_of_next`: the rest is shorter than the text.
-/

namespace Spreadsheet

namespace Formula

namespace Lexeme

/-! ## The classes -/

/-- Digits with at most one point among them. -/
def number (cs : List Char) : List Char × List Char :=
  match cs.dropWhile Char.isDigit with
  | '.' :: rest =>
    (cs.takeWhile Char.isDigit ++ '.' :: rest.takeWhile Char.isDigit,
      rest.dropWhile Char.isDigit)
  | rest => (cs.takeWhile Char.isDigit, rest)

/-- The characters that are tokens by themselves. -/
def symbols : List Char := ['+', '-', '*', '/', '<', '>', '=', '&', '|', ':', '(', ')', ',']

/-- Letters and digits, each with an optional `$` in front. -/
def reference? (cs : List Char) : Option (List Char × List Char) :=
  let (colMarked, r) := Address.takeMark cs
  let (rowMarked, d) := Address.takeMark (r.dropWhile Char.isAlpha)
  let letters := r.takeWhile Char.isAlpha
  let digits := d.takeWhile Char.isDigit
  if letters.isEmpty || digits.isEmpty then none
  else some (Address.markText colMarked ++ letters ++ Address.markText rowMarked ++ digits,
    d.dropWhile Char.isDigit)

/-- Letters. -/
def function (cs : List Char) : List Char × List Char :=
  (cs.takeWhile Char.isAlpha, cs.dropWhile Char.isAlpha)

/-- The characters up to the next quote, and the rest after it. -/
def quoted? (cs : List Char) : Option (List Char × List Char) :=
  match cs.dropWhile (· != '"') with
  | [] => none
  | _ :: rest => some (cs.takeWhile (· != '"'), rest)

/-- The lexeme at the start of a text that does not start with a blank character. -/
def next (c : Char) (rest : List Char) : Except Fault (Token × List Char) :=
  if c.isDigit || c = '.' then
    let (digits, after) := number (c :: rest)
    .ok (⟨.number, .ofList digits⟩, after)
  else if c = '<' ∧ rest.head? = some '>' then .ok (⟨.operator, "<>"⟩, rest.tail)
  else if symbols.contains c then .ok (⟨.operator, .ofList [c]⟩, rest)
  else if c = '$' || c.isAlpha then
    match reference? (c :: rest) with
    | some (address, after) => .ok (⟨.reference, .ofList address⟩, after)
    | none =>
      if c.isAlpha then
        let (name, after) := function (c :: rest)
        .ok (⟨.function, .ofList name⟩, after)
      else .error (.unknownCharacter c)
  else if c = '"' then
    match quoted? rest with
    | some (text, after) => .ok (⟨.characters, .ofList text⟩, after)
    | none => .error .unterminatedText
  else .error (.unknownCharacter c)

/-! ## A lexeme and the rest are the text -/

theorem number_append (cs : List Char) : (number cs).1 ++ (number cs).2 = cs := by
  unfold number
  split
  · next rest h =>
    have := List.takeWhile_append_dropWhile (p := Char.isDigit) (l := cs)
    rw [h] at this
    simpa using this
  · next h => simp

theorem reference?_append {cs lexeme rest : List Char}
    (h : reference? cs = some (lexeme, rest)) : lexeme ++ rest = cs := by
  simp only [reference?] at h
  split at h
  · cases h
  · simp only [Option.some.injEq, Prod.mk.injEq] at h
    obtain ⟨rfl, rfl⟩ := h
    simp only [List.append_assoc, List.takeWhile_append_dropWhile, Address.takeMark_append]

theorem reference?_ne_nil {cs lexeme rest : List Char}
    (h : reference? cs = some (lexeme, rest)) : lexeme ≠ [] := by
  simp only [reference?] at h
  split at h
  · cases h
  · next hne =>
    simp only [Option.some.injEq, Prod.mk.injEq] at h
    obtain ⟨rfl, rfl⟩ := h
    simp_all

theorem quoted?_append {cs text rest : List Char} (h : quoted? cs = some (text, rest)) :
    text ++ '"' :: rest = cs := by
  unfold quoted? at h
  split at h
  · cases h
  · next c r hr =>
    simp only [Option.some.injEq, Prod.mk.injEq] at h
    obtain ⟨rfl, rfl⟩ := h
    have hc : c = '"' := by
      have := List.head?_dropWhile_not (fun c => c != '"') cs
      rw [hr] at this
      simpa using this
    have := List.takeWhile_append_dropWhile (p := (· != '"')) (l := cs)
    rw [hr, hc] at this
    exact this

/-! ## The rest is shorter -/

theorem length_number_lt {c : Char} (h : c.isDigit = true ∨ c = '.') (rest : List Char) :
    (number (c :: rest)).2.length ≤ rest.length := by
  have happ := congrArg List.length (number_append (c :: rest))
  have hne : (number (c :: rest)).1 ≠ [] := by
    unfold number
    rcases h with h | rfl
    · split <;> simp [h]
    · simp
  have hpos := List.length_pos_iff.mpr hne
  simp only [List.length_append, List.length_cons] at happ
  omega

theorem length_le_of_next {c : Char} {rest after : List Char} {t : Token}
    (h : next c rest = .ok (t, after)) : after.length ≤ rest.length := by
  unfold next at h
  split at h
  · next hc =>
    have hc' : c.isDigit = true ∨ c = '.' := by simpa using hc
    cases h
    exact length_number_lt hc' rest
  split at h
  · cases h; simp
  split at h
  · cases h; exact Nat.le_refl _
  split at h
  · split at h
    · next address tail hr =>
      cases h
      have happ := congrArg List.length (reference?_append hr)
      have hpos := List.length_pos_iff.mpr (reference?_ne_nil hr)
      simp only [List.length_append, List.length_cons] at happ
      omega
    · split at h
      · next halpha =>
        cases h
        simp only [List.dropWhile_cons, halpha, if_true]
        exact (List.dropWhile_sublist _).length_le
      · cases h
  split at h
  · split at h
    · next text tail hq =>
      cases h
      have happ := congrArg List.length (quoted?_append hq)
      simp only [List.length_append, List.length_cons] at happ
      omega
    · cases h
  · cases h

end Lexeme

/-- The tokens of a text, and the mark at its end. -/
def scan : List Char → Except Fault (List Token)
  | [] => .ok [Token.endMark]
  | c :: rest =>
    if Text.isBlank c then scan rest
    else
      match h : Lexeme.next c rest with
      | .error fault => .error fault
      | .ok (token, after) =>
        have : after.length ≤ rest.length := Lexeme.length_le_of_next h
        (scan after).map (token :: ·)
termination_by cs => cs.length
decreasing_by all_goals simp_wf <;> omega

/-- The tokens of a formula. -/
def tokenize (formula : String) : Except Fault (List Token) := scan formula.toList

end Formula

end Spreadsheet
