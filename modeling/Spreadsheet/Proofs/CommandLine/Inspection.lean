import Spreadsheet.Proofs.CommandLine.Running
import Spreadsheet.Proofs.Formula.Stages
import Spreadsheet.Proofs.Formula.Wordings
import Spreadsheet.Proofs.Sheet.Reads

/-!
# Looking at a formula

The commands that show the tokens and the tree of a formula read the same formula as the one
that evaluates it, and as any cell that it is typed into.

- `Command.stripFormula_eq`: the formula behind an `=` is the same for all.
- `Failure.ofFault`, `Command.tokensOf_eq`, `Command.treeOf_eq`: what the commands
  read, and how they fail.
- `Outcome.ofReading`, `execute_ast`, `execute_tokens`: what they do.
- `Command.prepare_eq_ok_iff`: the cells of `eval` are edited one after the other.
- `EvalWrites`, `CellsHold`: what evaluating an input writes, and what formulas see
  of cells with this input.
- `inspection_agrees`: all of them agree.
-/

namespace Spreadsheet

open Formula

namespace CommandLine

/-- The failure of a command that reads a formula with a fault. -/
def Failure.ofFault (e : Fault) : Failure :=
  ⟨if e.stage = .tokenize then "Failed to tokenize formula" else "Failed to parse formula",
    [e.message]⟩

namespace Outcome

/-- The program fails with the fault of a formula. -/
def FailsWith (o : Outcome) (e : Fault) : Prop := ∃ attempt, o = .failed ⟨attempt, [e.message]⟩

/-- What a program does that reads a formula and writes what it reads. -/
def ofReading {α : Type} (written : α → String) : Except Fault α → Outcome
  | .ok a => .done (written a) ""
  | .error e => .failed (.ofFault e)

section

variable {α : Type} {written : α → String} {r : Except Fault α} {e : Fault}

theorem code_ofReading : (ofReading written r).code ≠ 0 ↔ ∃ e, r = .error e := by
  cases r with
  | ok a => exact ⟨fun h => absurd rfl h, nofun⟩
  | error e => exact ⟨fun _ => ⟨e, rfl⟩, fun _ => nofun⟩

/-- What is reported about a formula tells its fault, as no two faults of
reading are worded the same. -/
theorem failsWith_ofReading (hr : ∀ e, r = .error e → e.stage ≠ .evaluate) :
    (ofReading written r).FailsWith e ↔ r = .error e := by
  constructor
  · rintro ⟨attempt, hfailed⟩
    cases r with
    | ok a => cases hfailed
    | error d =>
      have hmessage : d.message = e.message := by
        simp only [ofReading, Failure.ofFault, failed.injEq, Failure.mk.injEq,
          List.cons.injEq] at hfailed
        exact hfailed.2.1
      rw [Fault.eq_of_message (hr d rfl) hmessage]
  · rintro rfl
    exact ⟨_, rfl⟩

end

end Outcome

namespace Command

/-! ## What is read -/

/-- Blank characters at the ends do not count, whether they are trimmed before the `=` is
left out or after it. -/
theorem stripFormula_eq {input formula : String} (h : formulaBody? input = some formula) :
    stripFormula input = formula := by
  unfold formulaBody? at h
  split at h
  · next body hbody =>
    cases h
    rw [stripFormula, hbody, Text.trim_cons_of_not_blank (by decide)]
    exact congrArg String.ofList (Text.trim_trimEnd body)
  · cases h

section

variable {input formula : String} (h : formulaBody? input = some formula)

include h

theorem tokensOf_eq : tokensOf input = (tokenize formula).mapError Failure.ofFault := by
  rw [tokensOf, attempting, stripFormula_eq h]
  cases htokens : tokenize formula with
  | ok tokens => rfl
  | error e =>
    have hstage := stage_of_tokenize htokens
    simp only [Except.mapError, Failure.ofFault, if_pos hstage]

theorem treeOf_eq : treeOf input = (Formula.read formula).mapError Failure.ofFault := by
  rw [treeOf, tokensOf_eq h, Formula.read]
  cases htokens : tokenize formula with
  | error e => rfl
  | ok tokens =>
    show attempting _ _ (parse tokens) = (parse tokens).mapError _
    cases htree : parse tokens with
    | ok t => rfl
    | error e =>
      have hstage : e.stage ≠ .tokenize := by
        rw [stage_of_parse htree]
        decide
      simp only [attempting, Except.mapError, Failure.ofFault, if_neg hstage]

end

/-! ## What is written -/

/-- What `tokens` writes about tokens. -/
def tokensText (ts : List Token) (json : Bool) : String :=
  if json then (Document.array (ts.map Token.document)).render ++ "\n" else tokenLines ts

/-- What `ast` writes about a tree. -/
def treeText (t : Tree) (json references : Bool) : String :=
  if json then (if references then treeReport t else t.document).render ++ "\n"
  else t.outline.render ++ "\n" ++ if references then referenceLine t else ""

variable {surroundings : Surroundings}

/-- A sheet is prepared by edits of one cell after the other, and there is one
unless an edit is refused. -/
theorem prepare_eq_ok_iff {cells : List (String × String)} {s t : Sheet} :
    prepare s cells = .ok t ↔
      cells.foldlM (fun s cell => (s.editAt cell.1 cell.2).map Prod.fst) s = .ok t := by
  induction cells generalizing s with
  | nil =>
    exact ⟨fun h => congrArg Except.ok (Except.ok.inj h),
      fun h => congrArg Except.ok (Except.ok.inj h)⟩
  | cons cell cells ih =>
    obtain ⟨address, input⟩ := cell
    rw [prepare, List.foldlM_cons]
    cases s.editAt address input with
    | error e => exact ⟨nofun, nofun⟩
    | ok edited => exact ih

/-- On the sheet that is prepared, `eval` writes what a cell with the input would show. -/
theorem execute_eval {cells : List (String × String)} {s : Sheet}
    (h : prepare .standard cells = .ok s) (input : String) (limit : Nat) :
    execute surroundings (.eval input cells limit) =
      .done (s.displayOf limit input ++ "\n") "" := by
  rw [execute, perform, showValue, h]
  rfl

end Command

theorem exists_formulaBody? {x : String} (hx : x.toList.head? = some '=') :
    ∃ formula, formulaBody? x = some formula := by
  obtain ⟨body, hbody⟩ := List.head?_eq_some_iff.mp hx
  refine ⟨.ofList (Text.trim body), ?_⟩
  rw [formulaBody?, hbody]
  rfl

/-! ## What all of them see -/

/-- Whatever cells are edited on the usual empty sheet before, and whatever the limit,
evaluating the input succeeds and writes the text for the sheet with these cells. -/
def EvalWrites (x : String) (text : Sheet → Nat → String) : Prop :=
  ∀ surroundings (cells : List (String × String)) limit s,
    cells.foldlM (fun s cell => (s.editAt cell.1 cell.2).map Prod.fst) Sheet.standard = .ok s →
    (Command.eval x cells limit).execute surroundings = .done (text s limit ++ "\n") ""

/-- Whatever the sheet, this is what formulas see of each cell with the input. -/
def CellsHold (x : String) (content : Except Fault Content) : Prop :=
  ∀ s address c, Sheet.lookUp s address = .ok (some c) → c.input = x →
    s.content address = content

section

variable {x formula : String} (h : formulaBody? x = some formula)

include h

theorem evalWrites_of_formula :
    EvalWrites x fun s limit =>
      render (Formula.read formula >>= (·.evaluate (some s.content) limit)) := by
  intro surroundings cells limit s hs
  rw [Command.execute_eval (Command.prepare_eq_ok_iff.mpr hs),
    Sheet.displayOf_formula s limit h]
  rfl

theorem cellsHold_of_formula : CellsHold x ((Formula.read formula).map .formula) := by
  intro s address c hc hinput
  unfold Sheet.content
  rw [hc]
  dsimp only
  rw [hinput, h]

variable (surroundings : Surroundings) (json references : Bool)

/-- What `ast` does depends on nothing but the tree that is read. -/
theorem execute_ast : (Command.ast x json references).execute surroundings =
    .ofReading (Command.treeText · json references) (Formula.read formula) := by
  rw [Command.execute, Command.perform, Command.showTree, Command.treeOf_eq h]
  cases Formula.read formula with
  | error e => rfl
  | ok t => cases json <;> rfl

/-- What `tokens` does depends on nothing but the tokens that are read. -/
theorem execute_tokens : (Command.tokens x json).execute surroundings =
    .ofReading (Command.tokensText · json) (tokenize formula) := by
  rw [Command.execute, Command.perform, Command.showTokens, Command.tokensOf_eq h]
  cases tokenize formula with
  | error e => rfl
  | ok ts => cases json <;> rfl

theorem failsWith_iff_of_ast (e : Fault) :
    ((Command.ast x json references).execute surroundings).FailsWith e ↔
      Formula.read formula = .error e := by
  rw [execute_ast h]
  exact Outcome.failsWith_ofReading fun _ => stage_ne_evaluate_of_read

end

/-- The commands that show a formula typed behind an `=` see what the evaluator and the sheet
see. If `ast` fails with a fault, evaluating the input succeeds and writes this fault, whatever
cells and limit are given, and formulas see this fault in each cell with the input. If `ast`
succeeds, it writes a tree; evaluating the input writes the value of this tree on the sheet that
the given cells make, and formulas see this tree. There is nothing else that `ast` can do, and
`tokens` fails exactly if `ast` fails with a fault of the first stage. -/
theorem inspection_agrees {x : String} (hx : x.toList.head? = some '=')
    (surroundings : Surroundings) (json references : Bool) :
    let shown := (Command.ast x json references).execute surroundings
    (∀ e, shown.FailsWith e →
      EvalWrites x (fun _ _ => "ERROR: " ++ e.message) ∧ CellsHold x (.error e)) ∧
    (shown.code = 0 → ∃ t, Command.treeOf x = .ok t ∧
      shown = .done (Command.treeText t json references) "" ∧
      EvalWrites x (fun s limit => render (t.evaluate (some s.content) limit)) ∧
      CellsHold x (.ok (.formula t))) ∧
    (shown.code ≠ 0 → ∃ e, shown.FailsWith e) ∧
    ∀ surroundings' json', ((Command.tokens x json').execute surroundings').code ≠ 0 ↔
      ∃ e, e.stage = .tokenize ∧ shown.FailsWith e := by
  intro shown
  obtain ⟨formula, h⟩ := exists_formulaBody? hx
  have heval := evalWrites_of_formula h
  have hcells := cellsHold_of_formula h
  have hshown : shown =
      .ofReading (Command.treeText · json references) (Formula.read formula) :=
    execute_ast h surroundings json references
  have hfails : ∀ e, shown.FailsWith e ↔ Formula.read formula = .error e :=
    failsWith_iff_of_ast h surroundings json references
  refine ⟨fun e he => ?_, fun hcode => ?_, fun hcode => ?_, fun surroundings' json' => ?_⟩
  · rw [(hfails e).mp he] at heval hcells
    exact ⟨heval, hcells⟩
  · cases hread : Formula.read formula with
    | error e =>
      rw [hshown, hread] at hcode
      cases hcode
    | ok t =>
      rw [hread] at heval hcells hshown
      refine ⟨t, ?_, hshown, heval, hcells⟩
      rw [Command.treeOf_eq h, hread]
      rfl
  · rw [hshown] at hcode
    obtain ⟨e, he⟩ := Outcome.code_ofReading.mp hcode
    exact ⟨e, (hfails e).mpr he⟩
  · rw [execute_tokens h, Outcome.code_ofReading]
    exact exists_congr fun e =>
      tokenize_eq_error_iff.trans (and_congr_right fun _ => (hfails e).symm)

theorem tokenize_unterminated : tokenize "\"a" = .error .unterminatedText :=
  scan_of_next_error (by decide) (by rfl)

/-- `A1` holds a text, and `B1` shows it through a formula. -/
def shownThroughA1 : Sheet :=
  ⟨"Sheet1", 100, 26, [(⟨0, 0⟩, .ofInput "seven"), (⟨0, 1⟩, ⟨"=A1", "seven"⟩)]⟩

/-- The two cells are edited one after the other. -/
theorem foldlM_shownThroughA1 :
    [("A1", "seven"), ("B1", "=A1")].foldlM
      (fun s cell => (s.editAt cell.1 cell.2).map Prod.fst) Sheet.standard =
        .ok shownThroughA1 := by
  let first := Sheet.standard.store ⟨0, 0⟩ (.ofInput "seven")
  have hfirst : Sheet.standard.editAt "A1" "seven" = .ok (first, "seven") := rfl
  have hshown : (first.store ⟨0, 1⟩ (.ofInput "=A1")).displayOf usualLimit "=A1" = "seven" := by
    have hbody : formulaBody? "=A1" = some "A1" := rfl
    rw [Sheet.displayOf_formula _ _ hbody, Sheet.valueOf, evaluate, Sheet.read_A1]
    rfl
  have hsecond : first.editAt "B1" "=A1" = .ok (shownThroughA1, "seven") := by
    show first.edit .usual ⟨0, 1⟩ "=A1" = _
    refine Sheet.edit_eq_ok_iff.mpr ⟨_, rfl, .inr ⟨rfl, ?_⟩, rfl⟩
    rw [Sheet.EditMode.usual, hshown]
    rfl
  refine Command.prepare_eq_ok_iff.mp ?_
  rw [Command.prepare, hfirst]
  show Command.prepare first [("B1", "=A1")] = _
  rw [Command.prepare, hsecond]
  rfl

/-- `B1` leads to the text in `A1`. -/
theorem evaluate_shownThroughA1 :
    (Tree.reference "B1").evaluate (some shownThroughA1.content) usualLimit =
      .ok (.text "seven") := by
  have hresolve : shownThroughA1.resolve "B1" = .ok ⟨⟨0, 1⟩, false, false⟩ := rfl
  have hB1 : shownThroughA1.content "B1" = .ok (.formula (.reference "A1")) :=
    Sheet.content_of_formulaBody? hresolve rfl Sheet.read_A1
  show follow (some shownThroughA1.content) (63 + 1) "B1" = _
  rw [follow_succ, hB1]
  rfl

/-- The end of an unterminated text is blank: the commands and the cells report it all the same.
A reference is followed into the cells that were edited before. -/
theorem inspection_agrees_unterminated :
    let x := "=\"a "
    let surroundings : Surroundings := ⟨"", fun _ => .error noSuchFile⟩
    x.toList.head? = some '=' ∧
      ((Command.ast x false true).execute surroundings).FailsWith .unterminatedText ∧
      ((Command.tokens x false).execute surroundings).code ≠ 0 ∧
      (Command.eval x [("A1", "2")] usualLimit).execute surroundings =
        .done "ERROR: Unterminated string\n" "" ∧
      (Sheet.standard.store ⟨0, 0⟩ (.ofInput x)).content "A1" = .error .unterminatedText ∧
      (Command.eval "=B1" [("A1", "seven"), ("B1", "=A1")] usualLimit).execute surroundings =
        .done "seven\n" "" := by
  intro x surroundings
  have hx : x.toList.head? = some '=' := by decide
  have hread : Formula.read "\"a" = .error .unterminatedText :=
    (tokenize_eq_error_iff.mp tokenize_unterminated).2
  have hfails : ((Command.ast x false true).execute surroundings).FailsWith .unterminatedText :=
    (failsWith_iff_of_ast (by decide) surroundings false true _).mpr hread
  obtain ⟨hfault, -, -, htokens⟩ := inspection_agrees hx surroundings false true
  obtain ⟨hwrites, hcells⟩ := hfault .unterminatedText hfails
  refine ⟨hx, hfails, ?_, ?_, ?_, ?_⟩
  · exact (htokens surroundings false).mpr ⟨_, rfl, hfails⟩
  · exact hwrites surroundings [("A1", "2")] usualLimit _ (by rfl)
  · exact hcells _ "A1" (.ofInput x) (by rfl) rfl
  · have hbody : formulaBody? "=B1" = some "B1" := rfl
    have hast : (Command.ast "=B1" false false).execute surroundings =
        .done (Command.treeText (.reference "B1") false false) "" := by
      rw [execute_ast hbody, Sheet.read_B1]
      rfl
    obtain ⟨-, htree, -⟩ := inspection_agrees (x := "=B1") (by decide) surroundings false false
    obtain ⟨t, ht, -, hwrites, -⟩ := htree (by rw [hast]; rfl)
    rw [Command.treeOf_eq hbody, Sheet.read_B1] at ht
    cases ht
    rw [hwrites surroundings _ usualLimit _ foldlM_shownThroughA1]
    dsimp only
    rw [evaluate_shownThroughA1]
    rfl

end CommandLine

end Spreadsheet
