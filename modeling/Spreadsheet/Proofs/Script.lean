import Mathlib.Data.List.DropRight
import Spreadsheet.Proofs.Address
import Spreadsheet.Script

/-!
# Scripts that are written

A script is read line by line, up to the first line that is malformed. It may be written
with an address, blank characters and an input on each line, and with empty lines and
comments anywhere between these.

- `IsFiller`, `FirstWord`, `FitsLine`: lines that say nothing, the word with which the others
  start, and inputs for which a line has room.
- `FirstWord.contentOf_eq`: what is read of a line.
- `parseLine_of_isFiller`, `parseLine_of_firstWord`, `parseLine_entry`: what a line says.
- `line_cases`: lines say nothing, start with an address, or are malformed.
- `parseLines_eq_error`, `exists_parseLines_append_cons`: the first malformed
  line, and the edit of a line.
- `parseLines_intercalate`: lines between line feeds are read as these lines.
- `Lists`, `parseLines_of_lists`: a script that lists inputs of cells, and the
  edits that it is read as.
-/

namespace Spreadsheet

namespace Edit

/-- A line of a script that says nothing: it is blank, or a comment. -/
inductive IsFiller : List Char → Prop
  | blank {line : List Char} (h : ∀ c ∈ line, Text.isBlank c = true) : IsFiller line
  | comment {blanks rest : List Char} (h : ∀ c ∈ blanks, Text.isBlank c = true) :
      IsFiller (blanks ++ '#' :: rest)

/-- An input for which a line of a script has room: it has no line feed in it, does not start
with a blank character and does not end with a carriage return. -/
structure FitsLine (input : String) : Prop where
  lineFeed : '\n' ∉ input.toList
  start : ∀ c ∈ input.toList.head?, Text.isBlank c = false
  last : ∀ c ∈ input.toList.getLast?, c ≠ '\r'

/-- The first word of a line and what follows it. Blank characters may stand before the word,
and the line is no comment. -/
structure FirstWord (line word rest : List Char) : Prop where
  text : ∃ blanks, (∀ c ∈ blanks, Text.isBlank c = true) ∧ line = blanks ++ (word ++ rest)
  ne_nil : word ≠ []
  not_blank : ∀ c ∈ word, Text.isBlank c = false
  not_comment : ∀ c ∈ word.head?, c ≠ '#'
  stop : ∀ c ∈ rest.head?, Text.isBlank c = true

/-- A line says nothing, or has a first word. -/
theorem isFiller_or_firstWord (line : List Char) :
    IsFiller line ∨ ∃ word rest, FirstWord line word rest := by
  have hsplit : line.takeWhile Text.isBlank ++ line.dropWhile Text.isBlank = line :=
    List.takeWhile_append_dropWhile
  have hblanks : ∀ c ∈ line.takeWhile Text.isBlank, Text.isBlank c = true :=
    fun c hc => List.mem_takeWhile_imp hc
  have hhead := List.head?_dropWhile_not Text.isBlank line
  cases hrest : line.dropWhile Text.isBlank with
  | nil => exact .inl (.blank (List.dropWhile_eq_nil_iff.mp hrest))
  | cons c cs =>
    rw [hrest] at hsplit hhead
    have hc : Text.isBlank c = false := hhead
    by_cases hcomment : c = '#'
    · rw [← hsplit, hcomment]
      exact .inl (.comment hblanks)
    · have hword : (c :: cs).takeWhile (fun c => !Text.isBlank c) =
          c :: cs.takeWhile fun c => !Text.isBlank c :=
        List.takeWhile_cons_of_pos (by simp [hc])
      refine .inr ⟨(c :: cs).takeWhile fun c => !Text.isBlank c,
        (c :: cs).dropWhile fun c => !Text.isBlank c,
        ⟨_, hblanks, ?_⟩, ?_, fun d hd => ?_, ?_, fun d hd => ?_⟩
      · rw [List.takeWhile_append_dropWhile, hsplit]
      · rw [hword]
        exact List.cons_ne_nil _ _
      · simpa using List.mem_takeWhile_imp hd
      · rw [hword]
        rintro d ⟨⟩
        exact hcomment
      · have hstop := List.head?_dropWhile_not (fun c => !Text.isBlank c) (c :: cs)
        rw [hd] at hstop
        simpa using hstop

/-- A written address is the first word of a line if blank characters stand before it,
and it does not go on. -/
theorem firstWord_of_written {line word rest letters digits : List Char}
    {colMarked rowMarked : Bool} (h : Address.Written word colMarked letters rowMarked digits)
    (htext : ∃ blanks, (∀ c ∈ blanks, Text.isBlank c = true) ∧ line = blanks ++ (word ++ rest))
    (hstop : ∀ c ∈ rest.head?, Text.isBlank c = true) : FirstWord line word rest where
  text := htext
  ne_nil := h.ne_nil
  not_blank c hc := h.isBlank_of_mem hc
  not_comment := by
    rintro c hc rfl
    exact absurd (h.mem_cases (List.mem_of_mem_head? hc)) (by decide)
  stop := hstop

/-! ## The content of a line -/

theorem contentOf_eq (line : List Char) :
    contentOf line = Text.trimStart (line.rdropWhile isLineEnd) := rfl

/-- A carriage return at the end of a line does not count. -/
theorem contentOf_dropReturn (line : List Char) :
    contentOf (Script.dropReturn line) = contentOf line := by
  unfold Script.dropReturn
  split
  · next rest hline =>
    unfold contentOf
    rw [hline, List.reverse_reverse, List.dropWhile_cons_of_pos (by decide)]
  · rfl

theorem FitsLine.trimStart_eq {input : String} (h : FitsLine input) :
    Text.trimStart input.toList = input.toList := by
  have hstart := h.start
  cases hinput : input.toList with
  | nil => rfl
  | cons c cs =>
    rw [hinput] at hstart
    exact Text.trimStart_cons_of_not_blank (hstart c rfl)

/-- What ends a line is blank. -/
theorem isLineEnd_of_not_blank {c : Char} (h : Text.isBlank c = false) :
    isLineEnd c = false := by
  have hreturn : c ≠ '\r' := by
    rintro rfl
    cases h
  have hfeed : c ≠ '\n' := by
    rintro rfl
    cases h
  simp [isLineEnd, hreturn, hfeed]

theorem FirstWord.contentOf_eq {line word rest : List Char} (h : FirstWord line word rest) :
    contentOf line = word ++ rest.rdropWhile isLineEnd := by
  obtain ⟨blanks, hblanks, rfl⟩ := h.text
  obtain ⟨d, ds, hstart⟩ := List.exists_cons_of_ne_nil h.ne_nil
  obtain ⟨cs, c, hlast⟩ := (List.eq_nil_or_concat' word).resolve_left h.ne_nil
  have hd : Text.isBlank d = false := h.not_blank d (by rw [hstart]; exact List.mem_cons_self)
  have hc : isLineEnd c = false :=
    isLineEnd_of_not_blank (h.not_blank c (by rw [hlast]; exact List.mem_concat_self))
  calc contentOf (blanks ++ (word ++ rest))
    _ = Text.trimStart ((blanks ++ cs ++ c :: rest).rdropWhile isLineEnd) := by
      rw [Edit.contentOf_eq, hlast]
      simp
    _ = Text.trimStart (blanks ++ (word ++ rest.rdropWhile isLineEnd)) := by
      rw [Text.rdropWhile_append_cons hc, hlast]
      simp
    _ = word ++ rest.rdropWhile isLineEnd := by
      rw [Text.trimStart_append_of_blank hblanks, hstart]
      exact Text.trimStart_cons_of_not_blank hd

/-- Carriage returns after an input are dropped, and nothing of the input is. -/
theorem FitsLine.rdropWhile_eq {input : String} (h : FitsLine input) (hne : input ≠ "")
    (gap : List Char) {returns : List Char} (hreturns : ∀ c ∈ returns, c = '\r') :
    (gap ++ input.toList ++ returns).rdropWhile isLineEnd = gap ++ input.toList := by
  obtain ⟨cs, c, hlast⟩ : ∃ cs c, input.toList = cs ++ [c] :=
    (List.eq_nil_or_concat' input.toList).resolve_left (by simpa using hne)
  have hc : isLineEnd c = false := by
    have hreturn : c ≠ '\r' := h.last c (by rw [hlast, List.getLast?_concat]; rfl)
    have hfeed : c ≠ '\n' := by
      rintro rfl
      exact h.lineFeed (by rw [hlast]; exact List.mem_concat_self)
    simp [isLineEnd, hreturn, hfeed]
  have hnil : returns.rdropWhile isLineEnd = [] :=
    List.rdropWhile_eq_nil_iff.mpr fun d hd => by
      rw [hreturns d hd]
      rfl
  have hsplit : gap ++ input.toList ++ returns = gap ++ cs ++ c :: returns := by
    rw [hlast]
    simp
  rw [hsplit, Text.rdropWhile_append_cons hc, hnil, hlast, List.append_assoc]

/-! ## What a line says -/

section

variable {line : List Char} (number : Nat)

theorem parseLine_of_isFiller (h : IsFiller line) :
    parseLine number (.ofList line) = .ok none := by
  unfold parseLine
  rw [String.toList_ofList, contentOf_eq]
  cases h with
  | blank h =>
    have hnil : Text.trimStart (line.rdropWhile isLineEnd) = [] :=
      List.dropWhile_eq_nil_iff.mpr fun c hc => h c ((List.rdropWhile_prefix _ _).subset hc)
    rw [hnil]
  | comment h =>
    rw [Text.rdropWhile_append_cons (by decide), Text.trimStart_append_of_blank h,
      Text.trimStart_cons_of_not_blank (by decide)]
    rfl

/-- A line with a first word is an edit if the word is an address. The input is what follows,
without blank characters in front and without what ends the line. -/
theorem parseLine_of_firstWord {word rest : List Char} (h : FirstWord line word rest) :
    parseLine number (.ofList line) = match Address.parse (.ofList word) with
      | .ok a => .ok (some ⟨number, a, .ofList (Text.trimStart (rest.rdropWhile isLineEnd))⟩)
      | .error e => .error (.malformed number e) := by
  have hword : ∀ c ∈ word, (!Text.isBlank c) = true := fun c hc => by rw [h.not_blank c hc]; rfl
  have hstop : ∀ c ∈ (rest.rdropWhile isLineEnd).head?, (!Text.isBlank c) = false := by
    intro c hc
    obtain ⟨ends, hrest⟩ := List.rdropWhile_prefix isLineEnd rest
    have hhead : c ∈ rest.head? := by
      rw [← hrest, List.head?_append, Option.mem_def.mp hc]
      rfl
    rw [h.stop c hhead]
    rfl
  unfold parseLine
  rw [String.toList_ofList, h.contentOf_eq]
  split
  · next hnil => exact absurd (List.append_eq_nil_iff.mp hnil).1 h.ne_nil
  · next hcomment =>
    obtain ⟨c, cs, rfl⟩ := List.exists_cons_of_ne_nil h.ne_nil
    exact absurd (List.cons.inj hcomment).1 (h.not_comment c rfl)
  · dsimp only
    rewrite [Text.takeWhile_append_of_stop hword hstop,
      Text.dropWhile_append_of_stop hword hstop]
    rfl

/-- A line with an address, blank characters and an input is an edit. Carriage
returns may follow. -/
theorem parseLine_entry {a : Address} (hrow : a.position.row < Address.rowCount)
    (hcol : a.position.col < Column.count) {input : String} (hinput : FitsLine input)
    (hne : input ≠ "")
    {gap returns : List Char} (hgap_ne : gap ≠ []) (hgap : ∀ c ∈ gap, Text.isBlank c = true)
    (hreturns : ∀ c ∈ returns, c = '\r') :
    parseLine number (.ofList (a.text.toList ++ gap ++ input.toList ++ returns)) =
      .ok (some ⟨number, a, input⟩) := by
  have hword : FirstWord (a.text.toList ++ gap ++ input.toList ++ returns) a.text.toList
      (gap ++ input.toList ++ returns) := by
    refine firstWord_of_written (Address.written_text a) ⟨[], nofun, by simp⟩ fun c hc => ?_
    rw [List.append_assoc, List.head?_append_of_ne_nil _ hgap_ne] at hc
    exact hgap c (List.mem_of_mem_head? hc)
  rw [parseLine_of_firstWord number hword, String.ofList_toList, Address.parse_text hrow hcol]
  dsimp only
  rw [hinput.rdropWhile_eq hne gap hreturns, Text.trimStart_append_of_blank hgap,
    hinput.trimStart_eq, String.ofList_toList]

end

/-- The line starts with an address. -/
def Addresses (line : String) (a : Address) : Prop :=
  ∃ word rest, FirstWord line.toList word rest ∧ Address.parse (.ofList word) = .ok a

/-- The line starts with a word that is no address. -/
def Malformed (line : String) (e : Address.Error) : Prop :=
  ∃ word rest, FirstWord line.toList word rest ∧ Address.parse (.ofList word) = .error e

/-- There are no other lines. -/
theorem line_cases (line : String) :
    IsFiller line.toList ∨ (∃ a, Addresses line a) ∨ ∃ e, Malformed line e := by
  rcases isFiller_or_firstWord line.toList with h | ⟨word, rest, h⟩
  · exact .inl h
  · refine .inr ?_
    cases hword : Address.parse (.ofList word) with
    | ok a => exact .inl ⟨a, word, rest, h, hword⟩
    | error e => exact .inr ⟨e, word, rest, h, hword⟩

section

variable {line : String} (number : Nat)

theorem parseLine_eq_none (h : IsFiller line.toList) : parseLine number line = .ok none := by
  have hread := parseLine_of_isFiller number h
  rwa [String.ofList_toList] at hread

theorem parseLine_of_addresses {a : Address} (h : Addresses line a) :
    ∃ input, parseLine number line = .ok (some ⟨number, a, input⟩) := by
  obtain ⟨word, rest, hword, ha⟩ := h
  have hread := parseLine_of_firstWord number hword
  rw [String.ofList_toList, ha] at hread
  exact ⟨_, hread⟩

theorem parseLine_of_malformed {e : Address.Error} (h : Malformed line e) :
    parseLine number line = .error (.malformed number e) := by
  obtain ⟨word, rest, hword, he⟩ := h
  have hread := parseLine_of_firstWord number hword
  rwa [String.ofList_toList, he] at hread

end

end Edit

namespace Script

/-! ## Lines between line feeds -/

theorem linesFrom_append {cs : List Char} (h : '\n' ∉ cs) (before rest : List Char) :
    linesFrom before (cs ++ rest) = linesFrom (cs.reverse ++ before) rest := by
  induction cs generalizing before with
  | nil => rfl
  | cons c cs ih =>
    have hc : c ≠ '\n' := fun heq => h (heq ▸ List.mem_cons_self)
    have hstep : linesFrom before (c :: (cs ++ rest)) =
        linesFrom (c :: before) (cs ++ rest) := by
      rw [linesFrom]
      exact hc
    rw [List.cons_append, hstep, ih fun hmem => h (List.mem_cons_of_mem c hmem),
      List.reverse_cons, List.append_assoc]
    rfl

/-- A line is read as one whether or not there is a carriage return at its end. -/
theorem parseLine_dropReturn (number : Nat) (line : List Char) :
    Edit.parseLine number (.ofList (dropReturn line)) =
      Edit.parseLine number (.ofList line) := by
  unfold Edit.parseLine
  rw [String.toList_ofList, String.toList_ofList, Edit.contentOf_dropReturn]

/-- Lines with line feeds between them are read as these lines. -/
theorem parseLines_intercalate {ls : List (List Char)} (h : ∀ l ∈ ls, '\n' ∉ l) (number : Nat) :
    parseLines number ((linesFrom [] (List.intercalate ['\n'] ls)).map .ofList) =
      parseLines number (ls.map .ofList) := by
  induction ls generalizing number with
  | nil => rfl
  | cons l ls ih =>
    have hl : '\n' ∉ l := h l List.mem_cons_self
    cases ls with
    | nil =>
      have hlines : linesFrom [] l = if l.reverse.isEmpty then [] else [l] := by
        have hsplit := linesFrom_append hl [] []
        rw [List.append_nil, List.append_nil] at hsplit
        rw [hsplit, linesFrom, List.reverse_reverse]
      rw [List.intercalate_singleton, hlines]
      cases l with
      | nil =>
        -- what follows the last line feed is no line, but an empty line says no more
        have hempty : Edit.IsFiller [] := .blank nofun
        rw [List.map_singleton, parseLines, Edit.parseLine_of_isFiller number hempty]
        rfl
      | cons c l => rw [if_neg (by simp)]
    | cons m ms =>
      have hrest := ih (fun l hl => h l (List.mem_cons_of_mem _ hl)) (number + 1)
      rw [List.intercalate_cons_cons, List.append_assoc, List.singleton_append,
        linesFrom_append hl,
        linesFrom, List.append_nil, List.reverse_reverse, List.map_cons,
        List.map_cons, parseLines, parseLines, parseLine_dropReturn, hrest]

/-! ## One line after the other -/

theorem parseLines_append (number : Nat) (before after : List String) :
    parseLines number (before ++ after) = do
      let edits ← parseLines number before
      let more ← parseLines (number + before.length) after
      return edits ++ more := by
  induction before generalizing number with
  | nil =>
    show parseLines number after = parseLines number after >>= fun more => .ok ([] ++ more)
    cases parseLines number after <;> rfl
  | cons line before ih =>
    rw [List.cons_append, parseLines, parseLines, ih, List.length_cons, Nat.add_right_comm,
      Nat.add_assoc number before.length 1]
    cases Edit.parseLine number line with
    | error e => rfl
    | ok edit =>
      cases parseLines (number + 1) before with
      | error e => rfl
      | ok edits =>
        cases parseLines (number + (before.length + 1)) after with
        | error e => rfl
        | ok more => exact congrArg Except.ok (List.append_assoc _ _ _).symm

section

variable {ls before after : List String} {line : String}

/-- If no line is malformed, lines are read, and their edits are of the cells
that they address. -/
theorem exists_parseLines_eq_ok (h : ∀ l ∈ ls, ∀ e, ¬ Edit.Malformed l e) (number : Nat) :
    ∃ edits, parseLines number ls = .ok edits ∧
      ∀ e ∈ edits, ∃ l ∈ ls, Edit.Addresses l e.address := by
  induction ls generalizing number with
  | nil => exact ⟨[], rfl, nofun⟩
  | cons line ls ih =>
    obtain ⟨edits, hedits, hall⟩ :=
      ih (fun l hl => h l (List.mem_cons_of_mem line hl)) (number + 1)
    have hlater : ∀ e ∈ edits, ∃ l ∈ line :: ls, Edit.Addresses l e.address := by
      intro e he
      obtain ⟨l, hl, haddresses⟩ := hall e he
      exact ⟨l, List.mem_cons_of_mem line hl, haddresses⟩
    rw [parseLines, hedits]
    rcases Edit.line_cases line with hfiller | ⟨a, ha⟩ | ⟨e, he⟩
    · rw [Edit.parseLine_eq_none number hfiller]
      exact ⟨edits, rfl, hlater⟩
    · obtain ⟨input, hread⟩ := Edit.parseLine_of_addresses number ha
      rw [hread]
      exact ⟨⟨number, a, input⟩ :: edits, rfl,
        List.forall_mem_cons.mpr ⟨⟨line, List.mem_cons_self, ha⟩, hlater⟩⟩
    · exact absurd he (h line List.mem_cons_self e)

/-- The first malformed line is reported. -/
theorem parseLines_eq_error (hbefore : ∀ l ∈ before, ∀ e, ¬ Edit.Malformed l e)
    {e : Address.Error} (hline : Edit.Malformed line e) (number : Nat) :
    parseLines number (before ++ line :: after) =
      .error (.malformed (number + before.length) e) := by
  obtain ⟨edits, hedits, -⟩ := exists_parseLines_eq_ok hbefore number
  rw [parseLines_append, hedits, parseLines, Edit.parseLine_of_malformed _ hline]
  rfl

/-- The edit of a line stands between those of the lines before and after it. -/
theorem exists_parseLines_append_cons
    (h : ∀ l ∈ before ++ line :: after, ∀ e, ¬ Edit.Malformed l e)
    {a : Address} (hline : Edit.Addresses line a) (number : Nat) : ∃ edits input more,
      parseLines number (before ++ line :: after) =
        .ok (edits ++ ⟨number + before.length, a, input⟩ :: more) ∧
      ∀ e ∈ edits, ∃ l ∈ before, Edit.Addresses l e.address := by
  obtain ⟨edits, hedits, hall⟩ :=
    exists_parseLines_eq_ok (fun l hl => h l (List.mem_append_left _ hl)) number
  obtain ⟨more, hmore, -⟩ := exists_parseLines_eq_ok
    (fun l hl => h l (List.mem_append_right before (List.mem_cons_of_mem line hl)))
    (number + before.length + 1)
  obtain ⟨input, hread⟩ := Edit.parseLine_of_addresses (number + before.length) hline
  refine ⟨edits, input, more, ?_, hall⟩
  rw [parseLines_append, hedits, parseLines, hread, hmore]
  rfl

end

/-! ## Scripts that list inputs -/

/-- The lines of a script that lists inputs of cells, in this order: for each its address,
blank characters and the input, with or without carriage returns at the end of the line.
Other lines say nothing. -/
inductive Lists : List (List Char) → List (Position × String) → Prop
  | nil : Lists [] []
  | filler {line : List Char} {ls : List (List Char)} {inputs : List (Position × String)}
      (hline : Edit.IsFiller line) (hfeed : '\n' ∉ line) (h : Lists ls inputs) :
      Lists (line :: ls) inputs
  | entry (p : Position) (input : String) {gap returns : List Char} {ls : List (List Char)}
      {inputs : List (Position × String)} (hgap_ne : gap ≠ [])
      (hgap : ∀ c ∈ gap, Text.isBlank c = true)
      (hfeed : '\n' ∉ gap) (hreturns : ∀ c ∈ returns, c = '\r') (h : Lists ls inputs) :
      Lists (((Address.ofPosition p).text.toList ++ gap ++ input.toList ++ returns) :: ls)
        ((p, input) :: inputs)

section

variable {ls : List (List Char)} {inputs : List (Position × String)} (h : Lists ls inputs)
  (hinputs : ∀ i ∈ inputs, Edit.FitsLine i.2)

include h hinputs

/-- No line of such a script has a line feed in it. -/
theorem Lists.lineFeed_not_mem : ∀ l ∈ ls, '\n' ∉ l := by
  induction h with
  | nil => nofun
  | filler hline hfeed _ ih =>
    intro l hl
    rcases List.mem_cons.mp hl with rfl | hl
    · exact hfeed
    · exact ih hinputs l hl
  | entry p input hgap_ne hgap hfeed hreturns _ ih =>
    intro l hl
    rcases List.mem_cons.mp hl with rfl | hl
    · intro hmem
      simp only [List.mem_append] at hmem
      rcases hmem with ((hmem | hmem) | hmem) | hmem
      · have hblank := (Address.written_text (.ofPosition p)).isBlank_of_mem hmem
        exact absurd hblank (by decide)
      · exact hfeed hmem
      · exact (hinputs _ List.mem_cons_self).lineFeed hmem
      · exact absurd (hreturns _ hmem) (by decide)
    · exact ih (fun i hi => hinputs i (List.mem_cons_of_mem _ hi)) l hl

/-- The edits of such a script are the inputs that it lists. -/
theorem Lists.parseLines_eq_ok (hne : ∀ i ∈ inputs, i.2 ≠ "")
    (hcells : ∀ i ∈ inputs, i.1.row < Address.rowCount ∧ i.1.col < Column.count)
    (number : Nat) :
    ∃ edits, parseLines number (ls.map .ofList) = .ok edits ∧
      edits.map (fun e => (e.address.position, e.input)) = inputs := by
  induction h generalizing number with
  | nil => exact ⟨[], rfl, rfl⟩
  | filler hline _ _ ih =>
    obtain ⟨edits, hedits, hlist⟩ := ih hinputs hne hcells (number + 1)
    refine ⟨edits, ?_, hlist⟩
    rw [List.map_cons, parseLines, Edit.parseLine_of_isFiller number hline, hedits]
    rfl
  | entry p input hgap_ne hgap _ hreturns _ ih =>
    obtain ⟨edits, hedits, hlist⟩ := ih (fun i hi => hinputs i (List.mem_cons_of_mem _ hi))
      (fun i hi => hne i (List.mem_cons_of_mem _ hi))
        (fun i hi => hcells i (List.mem_cons_of_mem _ hi))
      (number + 1)
    obtain ⟨hrow, hcol⟩ := hcells _ List.mem_cons_self
    have hline := Edit.parseLine_entry number (a := .ofPosition p) hrow hcol
      (hinputs _ List.mem_cons_self) (hne _ List.mem_cons_self) hgap_ne hgap hreturns
    refine ⟨⟨number, .ofPosition p, input⟩ :: edits, ?_, by rw [List.map_cons, hlist]; rfl⟩
    rw [List.map_cons, parseLines, hline, hedits]
    rfl

/-- A script that lists inputs of cells is read as edits that type these inputs,
in the same order. -/
theorem Lists.parse_eq_ok (hne : ∀ i ∈ inputs, i.2 ≠ "")
    (hcells : ∀ i ∈ inputs, i.1.row < Address.rowCount ∧ i.1.col < Column.count) :
    ∃ edits, parse (.ofList (List.intercalate ['\n'] ls)) = .ok edits ∧
      edits.map (fun e => (e.address.position, e.input)) = inputs := by
  unfold parse lines
  rw [String.toList_ofList, parseLines_intercalate (h.lineFeed_not_mem hinputs)]
  exact h.parseLines_eq_ok hinputs hne hcells 1

end

end Script

end Spreadsheet
