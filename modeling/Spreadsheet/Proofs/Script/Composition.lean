import Spreadsheet.Proofs.Script

/-!
# Scripts one after the other

Two scripts with a line break between them are read as the first and then the second, with the
lines of the second counted from where the first one ends. It does not matter where a text is
cut: the last line of the first script may be empty, and it may end with a carriage return that
belongs to the line break.

- `feeds`, `exists_feeds`: every text is lines with a line feed after each, and
  a rest without one.
- `parseLines_feeds`: such lines are read before the rest.
- `Edit.later`, `Error.later`, `parseLines_add`: the same lines, counted from a later one.
- `parseLines_numbers`: an edit has the number of the line that says it, and edits
  come in the order of these.
- `parse_append`: two scripts are read one after the other, and every script
  from its first line on.
-/

namespace Spreadsheet

namespace Edit

/-- The same edit, some lines later. -/
def later (k : Nat) (e : Edit) : Edit := { e with line := e.line + k }

/-- An edit has the number of its line. -/
theorem line_of_parseLine {number : Nat} {line : String} {e : Edit}
    (h : parseLine number line = .ok (some e)) : e.line = number := by
  unfold parseLine at h
  split at h
  · cases h
  · cases h
  · dsimp only at h
    split at h
    · cases h
      rfl
    · cases h

end Edit

namespace Script

/-- The same error, some lines later. -/
def Error.later (k : Nat) : Error → Error
  | .malformed line error => .malformed (line + k) error
  | .refused line error => .refused (line + k) error

/-! ## Lines with line feeds -/

/-- Lines with a line feed after each. -/
def feeds (ls : List (List Char)) : List Char := ls.flatMap (· ++ ['\n'])

@[simp] theorem feeds_nil : feeds [] = [] := rfl

@[simp] theorem feeds_cons (l : List Char) (ls : List (List Char)) :
    feeds (l :: ls) = l ++ '\n' :: feeds ls := by
  simp [feeds]

@[simp] theorem feeds_append (ls ms : List (List Char)) :
    feeds (ls ++ ms) = feeds ls ++ feeds ms :=
  List.flatMap_append

/-- Every text is lines with a line feed after each, as many as there are line feeds,
and a rest without one. -/
theorem exists_feeds (cs : List Char) :
    ∃ ls last, cs = feeds ls ++ last ∧ (∀ l ∈ ls, '\n' ∉ l) ∧ '\n' ∉ last ∧
    ls.length = cs.count '\n' := by
  induction cs using List.reverseRecOn with
  | nil => exact ⟨[], [], rfl, nofun, nofun, rfl⟩
  | append_singleton cs c ih =>
    obtain ⟨ls, last, rfl, hls, hlast, hlength⟩ := ih
    by_cases hc : c = '\n'
    · subst hc
      refine ⟨ls ++ [last], [], by simp, ?_, nofun, ?_⟩
      · intro l hl
        rcases List.mem_append.mp hl with hl | hl
        · exact hls l hl
        · rwa [List.mem_singleton.mp hl]
      · rw [List.length_append, List.count_append, hlength]
        rfl
    · refine ⟨ls, last ++ [c], by simp, hls, ?_, ?_⟩
      · intro hmem
        rcases List.mem_append.mp hmem with hmem | hmem
        · exact hlast hmem
        · exact hc (List.mem_singleton.mp hmem).symm
      · simp [hlength, List.count_append, hc]

/-- The lines of a text are those with a line feed after each, and then those of the rest. -/
theorem linesFrom_feeds {ls : List (List Char)} (h : ∀ l ∈ ls, '\n' ∉ l) (rest : List Char) :
    linesFrom [] (feeds ls ++ rest) = ls.map dropReturn ++ linesFrom [] rest := by
  induction ls with
  | nil => rfl
  | cons l ls ih =>
    have hrest := ih fun m hm => h m (List.mem_cons_of_mem l hm)
    rw [feeds_cons, List.append_assoc, List.cons_append,
      linesFrom_append (h l List.mem_cons_self), linesFrom,
      List.append_nil, List.reverse_reverse, hrest]
    rfl

/-- A text without a line feed is one line, or none if there is nothing in it. -/
theorem linesFrom_of_not_mem {cs : List Char} (h : '\n' ∉ cs) :
    linesFrom [] cs = if cs.isEmpty then [] else [cs] := by
  have hsplit := linesFrom_append h [] []
  rw [List.append_nil, List.append_nil] at hsplit
  rw [hsplit, linesFrom, List.isEmpty_reverse, List.reverse_reverse]

/-! ## Reading lines before others -/

section

variable (number : Nat)

theorem parseLines_dropReturn (ls : List (List Char)) :
    parseLines number ((ls.map dropReturn).map .ofList) =
      parseLines number (ls.map .ofList) := by
  induction ls generalizing number with
  | nil => rfl
  | cons l ls ih =>
    rw [List.map_cons, List.map_cons, List.map_cons, parseLines, parseLines,
      parseLine_dropReturn, ih]

/-- Lines with a line feed after each are read before the rest. -/
theorem parseLines_feeds {ls : List (List Char)} (h : ∀ l ∈ ls, '\n' ∉ l) (rest : List Char) :
    parseLines number ((linesFrom [] (feeds ls ++ rest)).map .ofList) = do
      let edits ← parseLines number (ls.map .ofList)
      let more ← parseLines (number + ls.length) ((linesFrom [] rest).map .ofList)
      return edits ++ more := by
  rw [linesFrom_feeds h, List.map_append, parseLines_append, parseLines_dropReturn,
    List.length_map, List.length_map]

/-- An empty line says nothing, so it does not matter that it is no line at the
end of a text. -/
theorem parseLines_last {last : List Char} (h : '\n' ∉ last) :
    parseLines number ((linesFrom [] last).map .ofList) = parseLines number [.ofList last] := by
  rw [linesFrom_of_not_mem h]
  cases last with
  | nil =>
    have hempty : Edit.IsFiller [] := .blank nofun
    rw [parseLines, Edit.parseLine_of_isFiller number hempty]
    rfl
  | cons c cs => rfl

/-- The last line of a script may be ended or not. -/
theorem parseLines_feeds_last {ls : List (List Char)} {last : List Char}
    (hls : ∀ l ∈ ls, '\n' ∉ l) (hlast : '\n' ∉ last) :
    parseLines number ((linesFrom [] (feeds ls ++ last)).map .ofList) =
      parseLines number ((ls ++ [last]).map .ofList) := by
  rw [parseLines_feeds number hls, parseLines_last _ hlast, List.map_append, parseLines_append,
    List.length_map]
  rfl

/-! ## Numbers of lines -/

theorem parseLine_add (k : Nat) (line : String) : Edit.parseLine (number + k) line =
    ((Edit.parseLine number line).map (Option.map (Edit.later k))).mapError
      (Error.later k) := by
  unfold Edit.parseLine
  split
  · rfl
  · rfl
  · dsimp only
    split <;> rfl

/-- Lines that are counted from a later one say the same, later. -/
theorem parseLines_add (k : Nat) (ls : List String) : parseLines (number + k) ls =
    ((parseLines number ls).map (List.map (Edit.later k))).mapError (Error.later k) := by
  induction ls generalizing number with
  | nil => rfl
  | cons l ls ih =>
    rw [parseLines, parseLines, parseLine_add, Nat.add_right_comm, ih]
    cases Edit.parseLine number l with
    | error e => rfl
    | ok edit =>
      cases parseLines (number + 1) ls with
      | error e => rfl
      | ok edits => cases edit <;> rfl

/-- An edit has the number of the line that says it, and edits come in the order of these. -/
theorem parseLines_numbers {ls : List String} {edits : List Edit}
    (h : parseLines number ls = .ok edits) :
    (edits.map Edit.line).Pairwise (· < ·) ∧ ∀ e ∈ edits, number ≤ e.line ∧
      ∃ l, ls[e.line - number]? = some l ∧ Edit.parseLine e.line l = .ok (some e) := by
  induction ls generalizing number edits with
  | nil =>
    cases h
    exact ⟨.nil, nofun⟩
  | cons l ls ih =>
    rw [parseLines] at h
    obtain ⟨edit, hedit, h⟩ := bind_eq_ok_iff.mp h
    obtain ⟨rest, hrest, h⟩ := bind_eq_ok_iff.mp h
    cases h
    obtain ⟨hsorted, hlines⟩ := ih (number + 1) hrest
    have hlater : ∀ e ∈ rest, number < e.line ∧
        ∃ m, (l :: ls)[e.line - number]? = some m ∧ Edit.parseLine e.line m = .ok (some e) := by
      intro e he
      obtain ⟨hle, m, hm, hread⟩ := hlines e he
      refine ⟨hle, m, ?_, hread⟩
      rw [show e.line - number = e.line - (number + 1) + 1 by omega]
      exact hm
    cases edit with
    | none => exact ⟨hsorted, fun e he => ⟨Nat.le_of_lt (hlater e he).1, (hlater e he).2⟩⟩
    | some first =>
      have hfirst : first.line = number := Edit.line_of_parseLine hedit
      constructor
      · refine List.Pairwise.cons ?_ hsorted
        intro n hn
        obtain ⟨e, he, rfl⟩ := List.mem_map.mp hn
        rw [hfirst]
        exact (hlater e he).1
      · intro e he
        rcases List.mem_cons.mp he with rfl | he
        · refine ⟨Nat.le_of_eq hfirst.symm, l, ?_, by rwa [hfirst]⟩
          rw [hfirst, Nat.sub_self]
          rfl
        · exact ⟨Nat.le_of_lt (hlater e he).1, (hlater e he).2⟩

end

/-! ## Two scripts -/

/-- A line break ends a line that says the same as what stands before it. -/
theorem exists_line_of_break {nl : String} (hnl : nl = "\n" ∨ nl = "\r\n") {last : List Char}
    (hlast : '\n' ∉ last) :
    ∃ line, last ++ nl.toList = line ++ ['\n'] ∧ '\n' ∉ line ∧
      ∀ number, Edit.parseLine number (.ofList line) =
        Edit.parseLine number (.ofList last) := by
  rcases hnl with rfl | rfl
  · exact ⟨last, rfl, hlast, fun _ => rfl⟩
  · refine ⟨last ++ ['\r'], by simp, ?_, fun number => ?_⟩
    · simpa using hlast
    · have hdrop : dropReturn (last ++ ['\r']) = last := by simp [dropReturn]
      rw [← parseLine_dropReturn, hdrop]

/-- Two scripts with a line break between them are read one after the other, the second from
the line behind the last one of the first. The edits of a script have the numbers of its
lines, in this order. -/
theorem parse_append :
    (∀ a b nl : String, nl = "\n" ∨ nl = "\r\n" →
      parse (a ++ nl ++ b) = match parse a with
        | .error e => .error e
        | .ok edits => match parse b with
          | .error e => .error (e.later (1 + a.toList.count '\n'))
          | .ok more => .ok (edits ++ more.map (Edit.later (1 + a.toList.count '\n')))) ∧
    ∀ (script : String) (edits : List Edit), parse script = .ok edits →
      (edits.map Edit.line).Pairwise (· < ·) ∧ ∀ e ∈ edits, 1 ≤ e.line ∧
        ∃ line, (lines script)[e.line - 1]? = some line ∧
          Edit.parseLine e.line line = .ok (some e) := by
  refine ⟨fun a b nl hnl => ?_, fun script edits h => parseLines_numbers 1 h⟩
  obtain ⟨ls, last, ha, hls, hlast, hlength⟩ := exists_feeds a.toList
  obtain ⟨line, hline, hfeed, hsame⟩ := exists_line_of_break hnl hlast
  have hfeeds : ∀ l ∈ ls ++ [line], '\n' ∉ l := by
    intro l hl
    rcases List.mem_append.mp hl with hl | hl
    · exact hls l hl
    · rwa [List.mem_singleton.mp hl]
  have htext : (a ++ nl ++ b).toList = feeds (ls ++ [line]) ++ b.toList := by
    rw [String.toList_append, String.toList_append, ha, List.append_assoc (feeds ls), hline]
    simp
  have hfirst : parseLines 1 ((ls ++ [line]).map .ofList) = parse a := by
    unfold parse lines
    rw [ha, parseLines_feeds_last 1 hls hlast, List.map_append, List.map_append,
      parseLines_append, parseLines_append]
    simp only [List.map_cons, List.map_nil, parseLines, hsame]
  have hcount : 1 + (ls ++ [line]).length = 1 + (1 + a.toList.count '\n') := by
    rw [List.length_append, hlength]
    simp [Nat.add_comm]
  have hwhole : parse (a ++ nl ++ b) = do
      let edits ← parse a
      let more ← parseLines (1 + (1 + a.toList.count '\n')) (lines b)
      return edits ++ more := by
    rw [← hfirst, ← hcount]
    unfold parse lines
    rw [htext, parseLines_feeds 1 hfeeds]
  rw [hwhole, parseLines_add, show parseLines 1 (lines b) = parse b from rfl]
  cases parse a with
  | error e => rfl
  | ok edits => cases parse b <;> rfl

/-- The line of a second script is counted behind the three lines of the first, of which
the last one is empty. -/
theorem parse_append_comment :
    parse ("# counts\nA1 2\n" ++ "\r\n" ++ "B1 =A1\r\n") =
        .ok [⟨2, ⟨⟨0, 0⟩, false, false⟩, "2"⟩, ⟨4, ⟨⟨0, 1⟩, false, false⟩, "=A1"⟩] ∧
      [2, 4].Pairwise (· < ·) := by
  have hparse : parse ("# counts\nA1 2\n" ++ "\r\n" ++ "B1 =A1\r\n") =
      .ok [⟨2, ⟨⟨0, 0⟩, false, false⟩, "2"⟩, ⟨4, ⟨⟨0, 1⟩, false, false⟩, "=A1"⟩] := by
    rw [parse_append.1 "# counts\nA1 2\n" "B1 =A1\r\n" "\r\n" (.inr rfl)]
    decide +kernel
  exact ⟨hparse, (parse_append.2 _ _ hparse).1⟩

end Script

end Spreadsheet
