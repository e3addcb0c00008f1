import Spreadsheet.Proofs.Address.Language
import Spreadsheet.Proofs.Script.Composition

/-!
# The lines of edits

Which edits a line can say, and which lines say them. An address can be any that a sheet may
have, with any marks; an input can be any text that neither starts with a blank character nor
ends with a carriage return or a line feed. Both are read back from a line on which they stand,
with blank characters in front and between them as one likes.

- `IsTrimmed`: the inputs of edits.
- `parseLine_written`: a line with an address, blank characters and an input says this edit.
- `exists_firstWord`, `bounds_of_parseLine`: what is read of a line is such an
  address and such an input.
- `wordOf`, `parseLine_eq_none_iff`, `parseLine_eq_error_iff`: lines that say
  nothing, and malformed ones.
- `parseLine_image`: all of this for every line.
-/

namespace Spreadsheet

namespace Edit

/-- A text that does not start with a blank character and does not end with a carriage
return or a line feed. -/
structure IsTrimmed (input : String) : Prop where
  start : ∀ c ∈ input.toList.head?, Text.isBlank c = false
  last : ∀ c ∈ input.toList.getLast?, isLineEnd c = false

/-! ## From edits to lines -/

/-- Of blank characters and an input, the input is read. -/
theorem IsTrimmed.trimStart_eq {input : String} (h : IsTrimmed input) {gap : List Char}
    (hgap : ∀ c ∈ gap, Text.isBlank c = true) :
    Text.trimStart ((gap ++ input.toList).rdropWhile isLineEnd) = input.toList := by
  have hstart := h.start
  have hlast := h.last
  rcases List.eq_nil_or_concat' input.toList with hnil | ⟨cs, c, hinput⟩
  · -- nothing but blank characters
    rw [hnil, List.append_nil]
    exact List.dropWhile_eq_nil_iff.mpr fun c hc =>
      hgap c ((List.rdropWhile_prefix _ _).subset hc)
  · have hc : isLineEnd c = false := hlast c (by rw [hinput, List.getLast?_concat]; rfl)
    rw [hinput, ← List.append_assoc, List.rdropWhile_concat_neg _ _ _ (by simp [hc]),
      List.append_assoc, ← hinput, Text.trimStart_append_of_blank hgap]
    cases hcs : input.toList with
    | nil => rfl
    | cons d ds =>
      rw [hcs] at hstart
      exact Text.trimStart_cons_of_not_blank (hstart d rfl)

/-- A line with an address, blank characters and an input says this edit. -/
theorem parseLine_written (number : Nat) (blanks gap : String) {a : Address}
    (hrow : a.position.row < Address.rowCount) (hcol : a.position.col < Column.count)
    {input : String}
    (hinput : IsTrimmed input) (hblanks : ∀ c ∈ blanks.toList, Text.isBlank c = true)
    (hne : gap ≠ "") (hgap : ∀ c ∈ gap.toList, Text.isBlank c = true) :
    parseLine number (blanks ++ a.text ++ gap ++ input) = .ok (some ⟨number, a, input⟩) := by
  have hline : (blanks ++ a.text ++ gap ++ input).toList =
      blanks.toList ++ (a.text.toList ++ (gap.toList ++ input.toList)) := by
    simp
  have hword : FirstWord (blanks ++ a.text ++ gap ++ input).toList a.text.toList
      (gap.toList ++ input.toList) := by
    refine firstWord_of_written (Address.written_text a)
      ⟨blanks.toList, hblanks, hline⟩ fun c hc => ?_
    rw [List.head?_append_of_ne_nil _ (by simpa using hne)] at hc
    exact hgap c (List.mem_of_mem_head? hc)
  have hread := parseLine_of_firstWord number hword
  rw [String.ofList_toList, String.ofList_toList, Address.parse_text hrow hcol,
    hinput.trimStart_eq hgap, String.ofList_toList] at hread
  exact hread

/-! ## From lines to edits -/

/-- What is left of a text when its ends are dropped is trimmed. -/
theorem isTrimmed_of_rest (rest : List Char) :
    IsTrimmed (.ofList (Text.trimStart (rest.rdropWhile isLineEnd))) where
  start c hc := by
    rw [String.toList_ofList] at hc
    have hstart := List.head?_dropWhile_not Text.isBlank (rest.rdropWhile isLineEnd)
    rw [show (rest.rdropWhile isLineEnd).dropWhile Text.isBlank =
      Text.trimStart (rest.rdropWhile isLineEnd) from rfl, Option.mem_def.mp hc] at hstart
    exact hstart
  last c hc := by
    rw [String.toList_ofList] at hc
    obtain ⟨front, hsplit⟩ : ∃ front, front ++ Text.trimStart (rest.rdropWhile isLineEnd) =
      rest.rdropWhile isLineEnd := ⟨_, List.takeWhile_append_dropWhile⟩
    have hlast : c ∈ (rest.rdropWhile isLineEnd).getLast? := by
      rw [← hsplit, List.getLast?_append, Option.mem_def.mp hc]
      rfl
    obtain ⟨hne, rfl⟩ := List.mem_getLast?_eq_getLast hlast
    simpa using List.rdropWhile_last_not isLineEnd rest hne

/-- The address of an edit is the first word of its line, and the input is what
follows without its ends. -/
theorem exists_firstWord {number : Nat} {line : String} {e : Edit}
    (h : parseLine number line = .ok (some e)) :
    ∃ word rest, FirstWord line.toList word rest ∧
      Address.parse (.ofList word) = .ok e.address ∧
      e.input = .ofList (Text.trimStart (rest.rdropWhile isLineEnd)) := by
  rcases isFiller_or_firstWord line.toList with hfiller | ⟨word, rest, hword⟩
  · rw [parseLine_eq_none number hfiller] at h
    cases h
  · have hread := parseLine_of_firstWord number hword
    rw [String.ofList_toList, h] at hread
    cases hparse : Address.parse (.ofList word) with
    | error e =>
      rw [hparse] at hread
      cases hread
    | ok a =>
      rw [hparse] at hread
      cases hread
      exact ⟨word, rest, hword, hparse, rfl⟩

/-- What is read of a line is an address within the limits and a trimmed input. -/
theorem bounds_of_parseLine {number : Nat} {line : String} {e : Edit}
    (h : parseLine number line = .ok (some e)) :
    e.address.position.row < Address.rowCount ∧ e.address.position.col < Column.count ∧
    IsTrimmed e.input := by
  obtain ⟨word, rest, -, hparse, hinput⟩ := exists_firstWord h
  obtain ⟨letters, digits, -, -, hcol, -, hrow⟩ := Address.parse_ok_iff_names.mp hparse
  exact ⟨hrow, hcol, hinput ▸ isTrimmed_of_rest rest⟩

/-- An input is made of characters of its line. -/
theorem input_subset_of_parseLine {number : Nat} {line : String} {e : Edit}
    (h : parseLine number line = .ok (some e)) : e.input.toList ⊆ line.toList := by
  obtain ⟨word, rest, hword, -, hinput⟩ := exists_firstWord h
  obtain ⟨blanks, -, hline⟩ := hword.text
  rw [hinput, String.toList_ofList, hline]
  intro c hc
  have hrest : c ∈ rest :=
    (List.rdropWhile_prefix _ _).subset ((List.dropWhile_suffix _).subset hc)
  exact List.mem_append_right blanks (List.mem_append_right word hrest)

/-! ## Lines that are no edits -/

/-- The first word of a line. -/
def wordOf (line : List Char) : List Char :=
  (Text.trimStart line).takeWhile fun c => !Text.isBlank c

theorem FirstWord.wordOf_eq {line word rest : List Char} (h : FirstWord line word rest) :
    wordOf line = word := by
  obtain ⟨blanks, hblanks, rfl⟩ := h.text
  obtain ⟨c, cs, rfl⟩ := List.exists_cons_of_ne_nil h.ne_nil
  have hc : Text.isBlank c = false := h.not_blank c List.mem_cons_self
  unfold wordOf
  rw [Text.trimStart_append_of_blank hblanks, List.cons_append,
    Text.trimStart_cons_of_not_blank hc, ← List.cons_append]
  exact Text.takeWhile_append_of_stop (fun d hd => by rw [h.not_blank d hd]; rfl)
    fun d hd => by rw [h.stop d hd]; rfl

section

variable (number : Nat) (line : String)

/-- A line says nothing exactly if it is blank or a comment. -/
theorem parseLine_eq_none_iff : parseLine number line = .ok none ↔ IsFiller line.toList := by
  refine ⟨fun h => ?_, parseLine_eq_none number⟩
  rcases isFiller_or_firstWord line.toList with hfiller | ⟨word, rest, hword⟩
  · exact hfiller
  · have hread := parseLine_of_firstWord number hword
    rw [String.ofList_toList, h] at hread
    split at hread <;> cases hread

/-- Any other line is malformed exactly if its first word is no address. -/
theorem parseLine_eq_error_iff (e : Script.Error) : parseLine number line = .error e ↔
    ¬ IsFiller line.toList ∧
      ∃ error, Address.parse (.ofList (wordOf line.toList)) = .error error ∧
        e = .malformed number error := by
  rcases isFiller_or_firstWord line.toList with hfiller | ⟨word, rest, hword⟩
  · rw [parseLine_eq_none number hfiller]
    exact ⟨nofun, fun h => absurd hfiller h.1⟩
  · have hread := parseLine_of_firstWord number hword
    rw [String.ofList_toList] at hread
    have hnot : ¬ IsFiller line.toList := by
      intro hfiller
      rw [parseLine_eq_none number hfiller] at hread
      split at hread <;> cases hread
    rw [hword.wordOf_eq, hread]
    cases Address.parse (.ofList word) with
    | ok a => exact ⟨nofun, fun ⟨_, _, h, _⟩ => nomatch h⟩
    | error error =>
      constructor
      · rintro ⟨⟩
        exact ⟨hnot, error, rfl, rfl⟩
      · rintro ⟨-, _, ⟨⟩, rfl⟩
        rfl

end

/-! ## Every line -/

/-- A line says an edit with an address within the limits and a trimmed input, and says it again
when both are written with a space between them. Every such address and input are read from
every line on which they stand alone, in this order and apart. Other lines say nothing if they
are blank or comments, and else their first word is no address. -/
theorem parseLine_image :
    (∀ number line e, parseLine number line = .ok (some e) →
      (e.address.position.row < Address.rowCount ∧ e.address.position.col < Column.count ∧
        IsTrimmed e.input) ∧
      parseLine number (e.address.text ++ " " ++ e.input) = .ok (some e)) ∧
    (∀ (number : Nat) (a : Address) (input blanks gap : String),
      a.position.row < Address.rowCount → a.position.col < Column.count → IsTrimmed input →
      (∀ c ∈ blanks.toList, Text.isBlank c = true) → gap ≠ "" →
        (∀ c ∈ gap.toList, Text.isBlank c = true) →
      parseLine number (blanks ++ a.text ++ gap ++ input) = .ok (some ⟨number, a, input⟩)) ∧
    (∀ number line, parseLine number line = .ok none ↔ IsFiller line.toList) ∧
    ∀ number line e, parseLine number line = .error e ↔ ¬ IsFiller line.toList ∧
      ∃ error, Address.parse (.ofList (wordOf line.toList)) = .error error ∧
        e = .malformed number error := by
  refine ⟨fun number line e h => ?_,
    fun number a input blanks gap hrow hcol hinput hblanks hne hgap =>
      parseLine_written number blanks gap hrow hcol hinput hblanks hne hgap,
    parseLine_eq_none_iff, parseLine_eq_error_iff⟩
  obtain ⟨hrow, hcol, hinput⟩ := bounds_of_parseLine h
  have hspace : ∀ c ∈ " ".toList, Text.isBlank c = true :=
    List.forall_iff_forall_mem.mp (by decide)
  have hwritten := parseLine_written number "" " " hrow hcol hinput nofun (by decide) hspace
  refine ⟨⟨hrow, hcol, hinput⟩, ?_⟩
  rw [String.empty_append] at hwritten
  rw [hwritten, ← line_of_parseLine h]

/-- An input may start like a comment, and have a line feed in it. -/
theorem parseLine_image_commentLike :
    parseLine 3 "\t$B2 \r#1\n2" = .ok (some ⟨3, ⟨⟨1, 1⟩, true, false⟩, "#1\n2"⟩) ∧
      parseLine 3 "$B2 #1\n2" = .ok (some ⟨3, ⟨⟨1, 1⟩, true, false⟩, "#1\n2"⟩) := by
  have hinput : IsTrimmed "#1\n2" := by
    constructor
    · rintro c ⟨⟩
      decide
    · rintro c ⟨⟩
      decide
  have hblanks : ∀ c ∈ "\t".toList, Text.isBlank c = true :=
    List.forall_iff_forall_mem.mp (by decide)
  have hgap : ∀ c ∈ " \r".toList, Text.isBlank c = true :=
    List.forall_iff_forall_mem.mp (by decide)
  have htext : (⟨⟨1, 1⟩, true, false⟩ : Address).text = "$B2" := by decide +kernel
  have hread := parseLine_image.2.1 3 ⟨⟨1, 1⟩, true, false⟩ "#1\n2" "\t" " \r" (by decide)
    (by decide) hinput hblanks (by decide) hgap
  have hagain := (parseLine_image.1 _ _ _ hread).2
  rw [htext] at hread hagain
  exact ⟨hread, hagain⟩

end Edit

end Spreadsheet
