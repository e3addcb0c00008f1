import Spreadsheet.Proofs.Formula.Chains
import Spreadsheet.Proofs.Formula.InOrder
import Spreadsheet.Proofs.Formula.ShownNumbers
import Spreadsheet.Proofs.Formula.Stages
import Spreadsheet.Proofs.Formula.Totals
import Spreadsheet.Proofs.Sheet.Inputs

/-!
# Formulas on one line

A line feed is shown only if one was typed. Whatever a formula comes to, a value or a fault,
its text is made of fixed texts and of characters of formulas and inputs, so that it stays
on one line if these do.

- `Text.OneLine`: a text without line feeds.
- `text_subset_of_scan`: tokens have no characters but those of the formula.
- `Tree.OneLine`, `oneLine_of_parse`: the texts and addresses in a tree come from tokens.
- `oneLine_operate`, `oneLine_callFunction`: what operators and functions make of operands.
- `KeepsLine`, `keepsLine_follow`, `KeepsLine.contentOf`: references to cells
  with inputs on one line.
- `oneLine_displayOf`: what is shown for an input that refers to such cells.
-/

namespace Spreadsheet

/-! ## Texts -/

namespace Text

/-- A text without line feeds. -/
def OneLine (s : String) : Prop := '\n' ∉ s.toList

instance (s : String) : Decidable (OneLine s) := inferInstanceAs (Decidable ('\n' ∉ s.toList))

/-- A text of some of the characters has no line feed either. -/
theorem OneLine.of_subset {s t : String} (h : OneLine t) (hs : s.toList ⊆ t.toList) :
    OneLine s :=
  fun hmem => h (hs hmem)

theorem OneLine.append {s t : String} (hs : OneLine s) (ht : OneLine t) : OneLine (s ++ t) := by
  intro hmem
  rw [String.toList_append] at hmem
  exact (List.mem_append.mp hmem).elim hs ht

end Text

open Text (OneLine)

/-- The grid shows every number on one line. -/
theorem NumberStyle.oneLine_render_grid (x : Float) : OneLine (grid.render x) := by
  unfold render
  dsimp only
  split
  · decide
  have hsigned {b : Bool} {cs : List Char} (hcs : '\n' ∉ cs) :
      OneLine (.ofList ((if b then ['-'] else []) ++ cs)) := by
    intro h
    rw [String.toList_ofList] at h
    rcases List.mem_append.mp h with h | h
    · have hsign : ∀ b : Bool, '\n' ∉ (if b then ['-'] else []) := by decide
      exact hsign b h
    · exact hcs h
  split
  · exact hsigned (by decide)
  · refine hsigned fun h => ?_
    -- nothing but digits and a point is left
    have hdecimal (d : Decimal) : IsDecimal (grid.layPositional d) :=
      isDecimal_layPositional rfl d
    have hc := (hdecimal _).isDigit_or_point h
    revert hc
    decide

/-- Numbers are shown without line feeds, and texts as they are. -/
theorem Value.oneLine_display {v : Value} (h : ∀ s, v = .text s → OneLine s) :
    OneLine v.display := by
  cases v with
  | empty => decide
  | number x => exact NumberStyle.oneLine_render_grid x
  | text s => exact h s rfl

namespace Formula

open Grammar

/-! ## Tokens -/

/-- A token has no characters but those of its lexeme. -/
theorem LexemeClass.text_subset (k : LexemeClass) (l : List Char) :
    (k.token l).text.toList ⊆ l := by
  cases k with
  | quoted =>
    show (String.ofList l.tail.dropLast).toList ⊆ l
    rw [String.toList_ofList]
    exact ((List.dropLast_sublist _).trans (List.tail_sublist l)).subset
  | _ =>
    show (String.ofList l).toList ⊆ l
    rw [String.toList_ofList]
    exact List.Subset.refl l

/-- Each lexeme is a part of the text. -/
theorem subset_textOf (ps : List Piece) (rest : List Char) :
    rest ⊆ textOf ps rest ∧ ∀ p ∈ ps, p.lexeme ⊆ textOf ps rest := by
  induction ps with
  | nil => exact ⟨List.Subset.refl rest, nofun⟩
  | cons q ps ih =>
    obtain ⟨hrest, hps⟩ := ih
    have hlater : textOf ps rest ⊆ textOf (q :: ps) rest :=
      List.Subset.trans (List.subset_append_right _ _) (List.subset_append_right _ _)
    refine ⟨List.Subset.trans hrest hlater, fun p hp => ?_⟩
    rcases List.mem_cons.mp hp with rfl | hp
    · exact List.Subset.trans (List.subset_append_left _ _) (List.subset_append_right _ _)
    · exact List.Subset.trans (hps p hp) hlater

/-- The text of a token is made of characters of the formula. -/
theorem text_subset_of_scan {cs : List Char} {ts : List Token} (h : scan cs = .ok ts) :
    ∀ a ∈ ts, a.text.toList ⊆ cs := by
  intro a ha
  obtain ⟨ps, ⟨blanks, -, -, rfl⟩, rfl⟩ := scan_eq_ok_iff.mp h
  rcases List.mem_append.mp ha with ha | ha
  · obtain ⟨p, hp, rfl⟩ := List.mem_map.mp ha
    exact List.Subset.trans (p.kind.text_subset p.lexeme) ((subset_textOf ps _).2 p hp)
  · rw [List.mem_singleton.mp ha]
    exact List.nil_subset _

/-- A character that starts no lexeme is one of the formula. -/
theorem oneLine_of_scan_error {cs : List Char} {e : Fault} (hcs : '\n' ∉ cs)
    (h : scan cs = .error e) : OneLine e.message := by
  obtain ⟨ps, c, rest, ⟨blanks, -, -, rfl⟩, -, -, rfl⟩ := scan_eq_error_iff.mp h
  have hc : c ≠ '\n' := by
    rintro rfl
    exact hcs ((subset_textOf ps _).1 (List.mem_append_right blanks List.mem_cons_self))
  unfold Lexeme.faultOf
  split
  · decide
  · show OneLine ("Unknown character: " ++ toString c)
    refine .append (by decide) ?_
    show '\n' ∉ (String.singleton c).toList
    simpa using hc.symm

/-! ## Trees -/

/-- What a tree holds stands in the tokens from which it is read. -/
theorem exists_token_of_mem_inOrder {tokens : List Token} {t : Tree}
    (h : parse tokens = .ok t) {i : Item}
    (hi : i ∈ t.inOrder) : ∃ a ∈ tokens, Item.ofToken? a = some i := by
  have hitems : itemsOf (tokens.takeWhile fun a => !a.isEnd) = t.inOrder.map some :=
    (derived_of_parse h).1.items
  have hmem : some i ∈ itemsOf (tokens.takeWhile fun a => !a.isEnd) := by
    rw [hitems]
    exact List.mem_map_of_mem hi
  obtain ⟨a, ha, hitem⟩ := List.mem_map.mp hmem
  exact ⟨a, (List.takeWhile_prefix _).subset (List.mem_filter.mp ha).1, hitem⟩

/-- What is kept as it was written: a text or an address. -/
def Item.written? : Item → Option String
  | .text s => some s
  | .reference address => some address
  | _ => none

/-- What is kept is the whole text of a token. -/
theorem Item.text_of_ofToken? {a : Token} {i : Item} {s : String} (h : ofToken? a = some i)
    (hs : i.written? = some s) : a.text = s := by
  obtain ⟨kind, literal⟩ := a
  cases kind with
  | number =>
    obtain ⟨x, -, rfl⟩ := Option.map_eq_some_iff.mp h
    cases hs
  | operator =>
    obtain ⟨op, -, rfl⟩ := Option.map_eq_some_iff.mp h
    cases hs
  | characters | reference =>
    cases h
    exact Option.some.inj hs
  | function =>
    cases h
    cases hs
  | formula => cases h

/-- The texts and the addresses in a tree are without line feeds. -/
def Tree.OneLine (t : Tree) : Prop := ∀ i ∈ t.inOrder, ∀ s, i.written? = some s → Text.OneLine s

section

variable {tokens : List Token} (htokens : ∀ a ∈ tokens, OneLine a.text)

include htokens

/-- The texts and the addresses in a tree are those of its tokens. -/
theorem oneLine_of_parse {t : Tree} (h : parse tokens = .ok t) : t.OneLine := by
  intro i hi s hs
  obtain ⟨a, ha, hitem⟩ := exists_token_of_mem_inOrder h hi
  exact Item.text_of_ofToken? hitem hs ▸ htokens a ha

/-- A fault of reading tokens quotes the text of a token, or none. -/
theorem oneLine_of_parse_error {e : Fault} (h : parse tokens = .error e) :
    OneLine e.message := by
  obtain ⟨rest, hsuffix, hfault⟩ := found_of_parse h
  have hrest : ∀ a ∈ rest, OneLine a.text := fun a ha =>
    htokens a ((List.takeWhile_prefix _).subset (hsuffix.subset ha))
  cases hfault with
  | unexpected =>
    have hhead : OneLine (headText rest) := by
      cases rest with
      | nil => decide
      | cons a rest =>
        show OneLine a.cited
        unfold Token.cited
        split
        · decide
        · exact hrest a List.mem_cons_self
    show OneLine ("Unexpected token: " ++ headText rest)
    exact .append (by decide) hhead
  | number a =>
    show OneLine ("Invalid number: " ++ a.text)
    exact .append (by decide) (hrest a List.mem_cons_self)
  | _ => decide

end

section

variable {formula : String} (hformula : OneLine formula)

include hformula

theorem oneLine_of_read {t : Tree} (h : read formula = .ok t) : t.OneLine := by
  obtain ⟨tokens, htokens, h⟩ := bind_eq_ok_iff.mp h
  exact oneLine_of_parse (fun a ha => hformula.of_subset (text_subset_of_scan htokens a ha)) h

/-- What is quoted in the wording of a fault stands in the formula. -/
theorem oneLine_of_read_error {e : Fault} (h : read formula = .error e) :
    OneLine e.message := by
  rcases bind_eq_error_iff.mp h with h | ⟨tokens, htokens, h⟩
  · exact oneLine_of_scan_error hformula h
  · exact oneLine_of_parse_error
      (fun a ha => hformula.of_subset (text_subset_of_scan htokens a ha)) h

end

/-! ## Results -/

theorem oneLine_render_error {e : Fault} (h : OneLine e.message) :
    OneLine (render (.error e)) :=
  .append (by decide) h

/-- An operation on numbers makes a number or has a fault that quotes nothing of them. -/
theorem oneLine_operate (op : Operator) (x y : Value) : OneLine (render (op.operate x y)) := by
  unfold Operator.operate
  split
  · split
    · decide
    · split
      · exact NumberStyle.oneLine_render_grid _
      · show OneLine "ERROR: Unsupported operator"
        decide
  · decide

/-- What is made of a total, or the fault of an argument that has no place in it. -/
theorem oneLine_total {function : String} (hfunction : OneLine function) (vs : List Value)
    {next : Float → Except Fault Value} (hnext : ∀ x, OneLine (render (next x))) :
    OneLine (render (total function vs >>= next)) := by
  rw [total_eq]
  cases vs.mapM Value.addend? with
  | none =>
    show OneLine ("ERROR: " ++ ("Invalid argument: " ++ function))
    exact .append (by decide) (.append (by decide) hfunction)
  | some xs => exact hnext _

/-- A function shows a number, or a fault that quotes at most its name in small letters. -/
theorem oneLine_callFunction (function : String) (vs : List Value) :
    OneLine (render (callFunction function vs)) := by
  by_cases haverage : Text.toUpper function = "AVERAGE"
  · rw [callFunction_of_average vs haverage]
    refine oneLine_total (by decide) vs fun x => ?_
    cases vs with
    | nil =>
      show OneLine "ERROR: Division by zero"
      decide
    | cons v vs => exact NumberStyle.oneLine_render_grid _
  by_cases hsum : Text.toUpper function = "SUM"
  · have hbind : sum vs = total "sum" vs >>= fun x => .ok (.number x) := by
      unfold sum
      cases total "sum" vs <;> rfl
    rw [callFunction_of_sum vs hsum, hbind]
    exact oneLine_total (by decide) vs NumberStyle.oneLine_render_grid
  · rw [callFunction, Catalogue.find?_builtIn, if_neg haverage, if_neg hsum]
    show OneLine "ERROR: Function not implemented"
    decide

/-! ## References and cells -/

/-- What addresses without line feeds are worth is shown without line feeds. -/
def KeepsLine (reference : String → Except Fault Value) : Prop :=
  ∀ a, OneLine a → OneLine (render (reference a))

/-- If no reference brings in a line feed, none is in the value of the tree. -/
theorem KeepsLine.evaluateWith {reference : String → Except Fault Value}
    (h : KeepsLine reference) {t : Tree}
    (ht : t.OneLine) : OneLine (render (t.evaluateWith reference)) := by
  have horigin := t.origin_of_evaluateWith reference
  generalize t.evaluateWith reference = result at horigin ⊢
  cases horigin with
  | number x => exact NumberStyle.oneLine_render_grid x
  | text hs => exact ht _ hs _ rfl
  | reference ha => exact h _ (ht _ ha _ rfl)
  | operation op x y => exact oneLine_operate op x y
  | call function vs => exact oneLine_callFunction function vs

/-- If one step of a chain of references keeps what is shown on one line, so do all. -/
theorem keepsLine_follow {look : Cells}
    (h : ∀ reference, KeepsLine reference →
        KeepsLine fun a => look a >>= Content.evaluateWith reference)
    (limit : Nat) : KeepsLine (follow (some look) limit) := by
  induction limit with
  | zero =>
    intro a _
    show OneLine "ERROR: Reference cycle or depth exceeded"
    decide
  | succ limit ih =>
    intro a ha
    rw [follow_succ]
    exact h _ ih a ha

/-- A formula is a part of the input. -/
theorem subset_of_formulaBody? {input formula : String}
    (h : formulaBody? input = some formula) : formula.toList ⊆ input.toList := by
  unfold formulaBody? at h
  split at h
  · next body hinput =>
    cases h
    obtain ⟨front, back, -, -, hbody⟩ := exists_blank_ends body
    have htrim : Text.trim body ⊆ body := by
      nth_rewrite 2 [hbody]
      exact List.Subset.trans (List.subset_append_left _ _) (List.subset_append_right _ _)
    rw [String.toList_ofList, hinput]
    exact List.Subset.trans htrim (List.subset_cons_self _ _)
  · cases h

section

variable {reference : String → Except Fault Value} (h : KeepsLine reference) {input : String}
  (hinput : OneLine input)

include h

/-- The same of a formula that is read and then evaluated. -/
theorem KeepsLine.read {formula : String} (hformula : OneLine formula) :
    OneLine (render (Formula.read formula >>= Tree.evaluateWith reference)) := by
  cases hread : Formula.read formula with
  | error e => exact oneLine_render_error (oneLine_of_read_error hformula hread)
  | ok t => exact h.evaluateWith (oneLine_of_read hformula hread)

include hinput

/-- A cell with an input on one line is worth what stays on one line. -/
theorem KeepsLine.contentOf :
    OneLine (render (Formula.contentOf input >>= Content.evaluateWith reference)) := by
  unfold Formula.contentOf
  cases hbody : formulaBody? input with
  | none =>
    refine Value.oneLine_display fun s hs => ?_
    rcases Value.ofInput_cases input
      with hvalue | hvalue | ⟨x, -, hvalue⟩ <;> cases hs.symm.trans hvalue
    exact hinput
  | some formula =>
    have hformula := h.read (hinput.of_subset (subset_of_formulaBody? hbody))
    dsimp only
    cases hread : Formula.read formula with
    | error e =>
      rw [hread] at hformula
      exact hformula
    | ok t =>
      rw [hread] at hformula
      exact hformula

end

/-- What is shown for an input without a line feed has none either. -/
theorem oneLine_displayOf {look : Cells} {limit : Nat}
    (h : KeepsLine (follow (some look) limit)) {input : String}
    (hinput : OneLine input) : OneLine (displayOf (some look) limit input) := by
  unfold displayOf
  split
  · next formula hformula => exact h.read (hinput.of_subset (subset_of_formulaBody? hformula))
  · exact hinput

end Formula

end Spreadsheet
