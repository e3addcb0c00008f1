import Mathlib.Data.List.Chain
import Spreadsheet.Formula.Evaluation
import Spreadsheet.Proofs.Formula.Reading
import Spreadsheet.Proofs.Formula.Splitting

/-!
# Writing tokens one after the other

Tokens that the grammar derives may be written with any blank characters between them, or with
none: no lexeme runs into the next one.

- `Token.spelling`, `Token.Lexical`: how a token is written, and the tokens that can be.
- `Spaced`: the texts of a list of tokens.
- `LexemeClass.goesOn`, `Chosen.of_stop`: a lexeme that the next character does not go
  on with is the one chosen.
- `Token.Fits`, `Expression.joined`: which token may stand right after another; in what the
  grammar derives, each does.
- `scan_of_spaced`, `read_of_spaced`: such texts are split into the same tokens
  and read as the same tree.
-/

namespace Spreadsheet

namespace Formula

open Grammar Token

/-! ## Where a lexeme ends -/

/-- The characters of numbers, references and names. -/
def isWord (c : Char) : Bool := c.isDigit || c.isAlpha || c = '.' || c = '$'

namespace LexemeClass

/-- May the character go on with the lexeme? -/
def goesOn : LexemeClass → List Char → Char → Bool
  | number, _, c | reference, _, c | name, _, c => isWord c
  | symbol, l, c => l = ['<'] && c = '>'
  | notEqual, _, _ | quoted, _, _ => false

variable {k : LexemeClass} {l m cs : List Char}

/-- A number is made of characters that can run on. -/
theorem isWord_of_number (h : number.Contains m) : ∀ c ∈ m, isWord c = true := by
  intro c hc
  cases h with
  | digits hne hds => simp [isWord, hds c hc]
  | pointed hds hes =>
    rcases List.mem_append.mp hc with hc | hc
    · simp [isWord, hds c hc]
    · rcases List.mem_cons.mp hc with rfl | hc
      · decide
      · simp [isWord, hes c hc]

theorem isWord_of_mem_markText {marked : Bool} {c : Char} (hc : c ∈ Address.markText marked) :
    isWord c = true := by
  cases marked with
  | true =>
    obtain rfl := List.mem_singleton.mp hc
    decide
  | false => cases hc

/-- So is a reference. -/
theorem isWord_of_reference (h : reference.Contains m) : ∀ c ∈ m, isWord c = true := by
  intro c hc
  cases h with
  | reference colMarked rowMarked hletters halpha hdigits hdigit =>
    simp only [List.append_assoc, List.mem_append] at hc
    rcases hc with hc | hc | hc | hc
    · exact isWord_of_mem_markText hc
    · simp [isWord, halpha c hc]
    · exact isWord_of_mem_markText hc
    · simp [isWord, hdigit c hc]

/-- So is a name. -/
theorem isWord_of_name (h : name.Contains m) : ∀ c ∈ m, isWord c = true := by
  intro c hc
  cases h with
  | name hletters halpha => simp [isWord, halpha c hc]

/-- One letter and one digit are a reference. -/
theorem reference_of_letter (letter digit : Char) (hletter : letter.isAlpha = true)
    (hdigit : digit.isDigit = true) : reference.Contains [letter, digit] :=
  @Contains.reference false false [letter] [digit] nofun
    (List.forall_mem_singleton.mpr hletter) nofun
    (List.forall_mem_singleton.mpr hdigit)

/-- A text of characters of one kind does not reach past a character that is not
of that kind. -/
theorem prefix_of_stop {p : Char → Bool} (hm : ∀ c ∈ m, p c = true)
    (hstop : ∀ c ∈ cs.head?, p c = false) (h : m <+: l ++ cs) : m <+: l := by
  rcases List.prefix_or_prefix_of_prefix h (List.prefix_append l cs) with hshort | hlong
  · exact hshort
  obtain ⟨ws, rfl⟩ := hlong
  cases ws with
  | nil => rw [List.append_nil]
  | cons c ws =>
    -- otherwise the character behind the lexeme is one of the text
    obtain ⟨rest, rfl⟩ := (List.prefix_append_right_inj l).mp h
    have hc := hm c (List.mem_append_right l List.mem_cons_self)
    rw [hstop c rfl] at hc
    cases hc

/-- No part of a name is a reference, since it has no digits. -/
theorem not_reference_of_name (h : name.Contains l) (hm : m <+: l) :
    ¬ reference.Contains m := by
  intro hk
  cases h with
  | name hletters halpha =>
    cases hk with
    | reference colMarked rowMarked hletters' halpha' hdigits hdigit =>
      -- a reference has a digit, and a name has none
      obtain ⟨d, ds, rfl, hd⟩ := starts_of_forall hdigits hdigit
      have hc := halpha d (hm.mem (List.mem_append_right _ List.mem_cons_self))
      rw [Text.isAlpha_of_isDigit hd] at hc
      cases hc

end LexemeClass

/-- A lexeme that the next character does not go on with is the one chosen. -/
theorem Chosen.of_stop {k : LexemeClass} {l cs : List Char} (h : k.Contains l)
    (hstop : ∀ c ∈ cs.head?, k.goesOn l c = false) : Chosen k l cs := by
  cases k with
  | number =>
    refine ⟨h, fun m hm hk => ?_, fun j hj => absurd hj (Nat.not_lt_zero _)⟩
    exact (LexemeClass.prefix_of_stop (LexemeClass.isWord_of_number hk) hstop hm).length_le
  | notEqual =>
    cases h with
    | notEqual => exact .ofNotEqual cs
  | symbol =>
    cases h with
    | @symbol c hc =>
      refine .ofSymbol hc (Lexeme.absent_notEqual ?_)
      rintro ⟨rfl, hhead⟩
      cases hstop '>' hhead
  | reference =>
    refine ⟨h, fun m hm hk => ?_, fun j hj => ?_⟩
    · exact (LexemeClass.prefix_of_stop (LexemeClass.isWord_of_reference hk) hstop hm).length_le
    · obtain ⟨c, l, rfl, hc⟩ := h.starts
      exact LexemeClass.absent_of_rank hc hj (by decide) _
  | name =>
    refine ⟨h, fun m hm hk => ?_, fun j hj => ?_⟩
    · exact (LexemeClass.prefix_of_stop (LexemeClass.isWord_of_name hk) hstop hm).length_le
    · by_cases hj' : j = .reference
      · rintro m hm hk
        subst hj'
        have hm' := LexemeClass.prefix_of_stop (LexemeClass.isWord_of_reference hk) hstop hm
        exact LexemeClass.not_reference_of_name h hm' hk
      · obtain ⟨c, l, rfl, hc⟩ := h.starts
        exact LexemeClass.absent_of_rank_name hc hj hj' _
  | quoted =>
    cases h with
    | quoted htext => exact .ofQuoted htext cs

/-! ## Spellings -/

namespace Token

/-- A token as it is written: its text, in quotes if it is a quoted one. -/
def spelling (a : Token) : List Char :=
  if a.kind = .characters then '"' :: a.text.toList ++ ['"'] else a.text.toList

/-- What is written is a lexeme, and the token is the one of that lexeme. -/
def Lexical (a : Token) : Prop :=
  ∃ k : LexemeClass, k.Contains a.spelling ∧ k.token a.spelling = a

/-- A token of a number is spelled as its literal. -/
theorem lexical_number {literal : String} (h : LexemeClass.number.Contains literal.toList) :
    Lexical ⟨.number, literal⟩ :=
  ⟨.number, h, congrArg (Token.mk .number) String.ofList_toList⟩

/-- A token of a reference is spelled as its address. -/
theorem lexical_reference {address : String}
    (h : LexemeClass.reference.Contains address.toList) : Lexical ⟨.reference, address⟩ :=
  ⟨.reference, h, congrArg (Token.mk .reference) String.ofList_toList⟩

theorem lexical_function {function : String} (h : LexemeClass.name.Contains function.toList) :
    Lexical ⟨.function, function⟩ :=
  ⟨.name, h, congrArg (Token.mk .function) String.ofList_toList⟩

/-- A token of a text is spelled with its quotation marks, if the text has none. -/
theorem lexical_characters {s : String} (h : '"' ∉ s.toList) : Lexical ⟨.characters, s⟩ := by
  refine ⟨.quoted, .quoted h, congrArg (Token.mk .characters) ?_⟩
  -- the quotes are dropped at either end
  show String.ofList (s.toList ++ ['"']).dropLast = s
  rw [List.dropLast_concat, String.ofList_toList]

/-- A token of an operator is spelled as its symbol. -/
theorem lexical_ofOperator (op : Operator) : (ofOperator op).Lexical := by
  cases op with
  | notEqual => exact ⟨.notEqual, .notEqual, rfl⟩
  | multiply | divide | add | subtract | lessThan | greaterThan | equal | concat
  | pipe | range =>
    exact ⟨.symbol, .symbol (by decide), rfl⟩

theorem lexical_opening : opening.Lexical := ⟨.symbol, .symbol (by decide), rfl⟩

theorem lexical_closing : closing.Lexical := ⟨.symbol, .symbol (by decide), rfl⟩

theorem lexical_comma : comma.Lexical := ⟨.symbol, .symbol (by decide), rfl⟩

/-- May the second token be written right after the first? An operator must stand between two
operands, and no operator but a parenthesis that opens stands right after a binary one. -/
def Fits (a b : Token) : Prop :=
  (a.kind ≠ .operator → b.kind = .operator) ∧
    ∀ op, a = ofOperator op → StartsOperand b

end Token

/-- The texts of a list of tokens: their spellings in order, with blank characters at the ends
and between them as one likes. -/
inductive Spaced : List Token → List Char → Prop
  | nil {blanks : List Char} (h : ∀ c ∈ blanks, Text.isBlank c = true) : Spaced [] blanks
  | cons {a : Token} {ts : List Token} {blanks cs : List Char}
      (hblanks : ∀ c ∈ blanks, Text.isBlank c = true) (h : Spaced ts cs) :
      Spaced (a :: ts) (blanks ++ (a.spelling ++ cs))

/-- No blank characters are needed. -/
theorem spaced_spelling : (ts : List Token) → Spaced ts (ts.flatMap Token.spelling)
  | [] => .nil nofun
  | a :: ts =>
    show Spaced (a :: ts) ([] ++ (a.spelling ++ ts.flatMap Token.spelling)) from
      .cons nofun (spaced_spelling ts)

/-! ## The next character -/

namespace LexemeClass

variable {k : LexemeClass} {l : List Char} {c : Char}

/-- What can run on is what numbers and references are made of. -/
theorem isWord_eq_or (c : Char) : isWord c = (number.starts c || reference.starts c) := by
  simp only [isWord, LexemeClass.starts]
  ac_rfl

theorem isWord_of_groupOf (h : groupOf c = 1) : isWord c = false := by
  have hne {j : LexemeClass} (hj : j.group ≠ 1) : j.starts c = false := by
    by_contra hstarts
    exact hj ((groupOf_of_starts (by simpa using hstarts)).symm.trans h)
  rw [isWord_eq_or, hne (by decide), hne (by decide)]
  rfl

/-- A blank character is not one of a number, a reference or a name. -/
theorem isWord_of_isBlank (hc : Text.isBlank c = true) : isWord c = false := by
  have hne (j : LexemeClass) : j.starts c = false := by
    by_contra hstarts
    rw [isBlank_of_starts (by simpa using hstarts)] at hc
    cases hc
  rw [isWord_eq_or, hne, hne]
  rfl

/-- A blank character goes on with nothing. -/
theorem goesOn_of_isBlank (hc : Text.isBlank c = true) : k.goesOn l c = false := by
  have hgreater : c ≠ '>' := by
    rintro rfl
    cases hc
  cases k <;> simp [goesOn, isWord_of_isBlank hc, hgreater]

/-- Operators make up a group of lexemes. -/
theorem group_eq_one_iff : (k.token l).kind = .operator ↔ k.group = 1 := by
  cases k <;> simp [token, group]

end LexemeClass

namespace Spaced

variable {ts : List Token} {cs : List Char} {c : Char}

/-- The first character of a text is blank, or the first one of the first token. -/
theorem head_cases (h : Spaced ts cs) (hlexical : ∀ a ∈ ts, a.Lexical) (hc : c ∈ cs.head?) :
    Text.isBlank c = true ∨ ∃ b ∈ ts.head?, b.spelling.head? = some c ∧
      (LexemeClass.groupOf c = 1 ↔ b.kind = .operator) := by
  cases h with
  | nil hblanks => exact .inl (hblanks c (List.mem_of_mem_head? hc))
  | @cons b ts blanks cs hblanks h =>
    cases blanks with
    | cons d blanks =>
      obtain rfl : d = c := by simpa using hc
      exact .inl (hblanks d List.mem_cons_self)
    | nil =>
      obtain ⟨k, hk, hb⟩ := hlexical b List.mem_cons_self
      obtain ⟨d, ds, hspelling, hd⟩ := hk.starts
      obtain rfl : d = c := by simpa [hspelling] using hc
      refine .inr ⟨b, rfl, by rw [hspelling]; rfl, ?_⟩
      rw [LexemeClass.groupOf_of_starts hd, ← hb, LexemeClass.group_eq_one_iff]

/-- What fits behind a token does not go on with its lexeme. -/
theorem not_goesOn (h : Spaced ts cs) (hlexical : ∀ a ∈ ts, a.Lexical)
    {k : LexemeClass} {a : Token}
    (hk : k.Contains a.spelling) (hka : k.token a.spelling = a)
    (hfits : ∀ b ∈ ts.head?, a.Fits b) (hc : c ∈ cs.head?) : k.goesOn a.spelling c = false := by
  rcases h.head_cases hlexical hc with hblank | ⟨b, hb, hspelling, hgroup⟩
  · exact LexemeClass.goesOn_of_isBlank hblank
  obtain ⟨hoperand, hbinary⟩ := hfits b hb
  by_cases hkind : k.group = 1
  · cases k with
    | symbol =>
      -- only after `<` there is something to show
      by_contra hgoes
      obtain ⟨hless, rfl⟩ : a.spelling = ['<'] ∧ c = '>' := by
        simpa [LexemeClass.goesOn] using hgoes
      rw [hless] at hka
      rcases hbinary .lessThan hka.symm with hne | rfl
      · exact hne (hgroup.mp (by decide))
      · cases hspelling
    | notEqual => rfl
    | number | reference | name | quoted => cases hkind
  · have hword : isWord c = false := by
      refine LexemeClass.isWord_of_groupOf (hgroup.mpr (hoperand fun ha => ?_))
      exact hkind (LexemeClass.group_eq_one_iff.mp (by rw [hka, ha]))
    cases k with
    | notEqual => rfl
    | symbol => exact absurd rfl hkind
    | quoted => rfl
    | _ => exact hword

end Spaced

/-- A text of tokens that fit is split into these tokens, and nothing of them is lost. -/
theorem scan_of_spaced {ts : List Token} {cs : List Char} (h : Spaced ts cs)
    (hlexical : ∀ a ∈ ts, a.Lexical) (hfits : ts.IsChain Token.Fits) :
    scan cs = .ok (ts ++ [Token.endMark]) := by
  induction h with
  | nil hblanks => simpa [scan_nil] using scan_append_of_blank hblanks []
  | @cons a ts blanks cs hblanks h ih =>
    obtain ⟨k, hk, hka⟩ := hlexical a List.mem_cons_self
    obtain ⟨hhead, hfits⟩ := List.isChain_cons.mp hfits
    have hlexical : ∀ b ∈ ts, b.Lexical := fun b hb => hlexical b (List.mem_cons_of_mem a hb)
    have hchosen : Chosen k a.spelling cs :=
      .of_stop hk fun c hc => h.not_goesOn hlexical hk hka hhead hc
    rw [scan_append_of_blank hblanks, scan_of_chosen hchosen, ih hlexical hfits, hka]
    rfl

/-! ## What the grammar derives -/

namespace Grammar

theorem ofOperator_kind (op : Operator) : (ofOperator op).kind = .operator := rfl

/-- A parenthesis and a comma may stand before any token. -/
theorem fits_of_symbol {a : Token} (b : Token) (hkind : a.kind = .operator)
    (hne : ∀ op, a ≠ ofOperator op) : a.Fits b :=
  ⟨fun h => absurd hkind h, fun op hop => absurd hop (hne op)⟩

/-- A binary operator may stand before an operand. -/
theorem fits_of_startsOperand {b : Token} (op : Operator) (hb : StartsOperand b) :
    (ofOperator op).Fits b :=
  ⟨fun h => absurd (ofOperator_kind op) h, fun _ _ => hb⟩

/-- An operand may stand before an operator. -/
theorem fits_of_operand {a b : Token} (ha : a.kind ≠ .operator) (hb : b.kind = .operator) :
    a.Fits b := by
  refine ⟨fun _ => hb, fun op hop => ?_⟩
  rw [hop] at ha
  exact absurd (ofOperator_kind op) ha

/-- Each token fits behind the one before it, and no operand is missing at the end. -/
structure Joined (ts : List Token) : Prop where
  fits : ts.IsChain Token.Fits
  ends : ∀ a ∈ ts.getLast?, ∀ op, a ≠ ofOperator op

theorem joined_nil : Joined [] := ⟨.nil, nofun⟩

/-- A leaf stands alone. -/
theorem Leaf.joined {a : Token} {t : Tree} (h : Leaf a t) : Joined [a] := by
  refine ⟨.singleton a, fun b hb op hop => h.kind_ne_operator ?_⟩
  obtain rfl : a = b := by simpa using hb
  rw [hop, ofOperator_kind]

/-- A name goes before an operator. -/
theorem Joined.cons {a b : Token} {ts : List Token} (h : Joined (b :: ts))
    (ha : a.kind ≠ .operator) (hb : b.kind = .operator) : Joined (a :: b :: ts) where
  fits := .cons_cons (fits_of_operand ha hb) h.fits
  ends c hc := h.ends c (by simpa using hc)

/-- An operator joins what stands before it to what it fits before. -/
theorem Joined.append_cons {us vs : List Token} {a : Token} (hus : Joined us) (hvs : Joined vs)
    (ha : a.kind = .operator) (hfits : ∀ b ∈ vs.head?, a.Fits b)
    (hends : vs = [] → ∀ op, a ≠ ofOperator op) : Joined (us ++ a :: vs) where
  fits := by
    refine List.isChain_append.mpr ⟨hus.fits, List.isChain_cons.mpr ⟨hfits, hvs.fits⟩, ?_⟩
    intro x hx y hy
    obtain rfl : a = y := by simpa using hy
    -- what is joined does not end in a binary operator, so any operator fits behind it
    exact ⟨fun _ => ha, fun op hop => absurd hop (hus.ends x hx op)⟩
  ends b hb := by
    cases vs with
    | nil =>
      obtain rfl : a = b := by simpa using hb
      exact hends rfl
    | cons c vs => exact hvs.ends b (by simpa using hb)

/-- Parentheses may touch what they enclose. -/
theorem Joined.enclose {ts : List Token} (h : Joined ts) :
    Joined (opening :: ts ++ [closing]) := by
  have hopening : ∀ op, opening ≠ ofOperator op := fun op => (ofOperator_ne_opening op).symm
  have hclosing : ∀ op, closing ≠ ofOperator op := fun op => (ofOperator_ne_closing op).symm
  have hclosed : Joined (ts ++ [closing]) :=
    h.append_cons joined_nil rfl nofun fun _ => hclosing
  exact joined_nil.append_cons hclosed rfl
    (fun b _ => fits_of_symbol b rfl hopening) fun _ => hopening

/-- A binary operator joins two operands. -/
theorem Joined.operation {us vs : List Token} (hus : Joined us) (op : Operator)
    (hvs : Joined vs)
    (hstarts : ∃ b ws, vs = b :: ws ∧ StartsOperand b) :
    Joined (us ++ ofOperator op :: vs) := by
  obtain ⟨b, ws, rfl, hb⟩ := hstarts
  refine hus.append_cons hvs rfl (fun c hc => ?_) nofun
  obtain rfl : b = c := by simpa using hc
  exact fits_of_startsOperand op hb

/-- A comma may touch what stands before it and behind it. -/
theorem Joined.comma {us vs : List Token} (hus : Joined us) (hvs : Joined vs) :
    Joined (us ++ comma :: vs) := by
  have hcomma : ∀ op, Token.comma ≠ ofOperator op := fun op => (ofOperator_ne_comma op).symm
  exact hus.append_cons hvs rfl (fun b _ => fits_of_symbol b rfl hcomma) fun _ => hcomma

mutual

/-- The tokens of an expression are joined. -/
theorem Expression.joined {ts : List Token} {t : Tree} : Expression ts t → Joined ts
  | .term h => h.joined
  | .operation op h _ k => h.joined.operation op k.joined k.starts

/-- The tokens of a term are joined. -/
theorem Term.joined {ts : List Token} {t : Tree} : Term ts t → Joined ts
  | .factor h => h.joined
  | .operation op h _ k => h.joined.operation op k.joined k.starts

/-- The tokens of a factor are joined. -/
theorem Factor.joined {ts : List Token} {t : Tree} : Factor ts t → Joined ts
  | .leaf h => h.joined
  | .group h => h.joined.enclose
  | .call h => h.joined.enclose.cons nofun rfl

/-- The tokens of an argument list are joined. -/
theorem Arguments.joined {ts : List Token} {args : List Tree} : Arguments ts args → Joined ts
  | .none => joined_nil
  | .last h => h.joined
  | .more h k => h.joined.comma k.joined

end

end Grammar

/-- No token with a spelling marks the end. -/
theorem Token.Lexical.isEnd {a : Token} (h : a.Lexical) : a.isEnd = false := by
  obtain ⟨k, -, hka⟩ := h
  refine Token.isEnd_of_kind ?_
  rw [← hka]
  cases k <;> nofun

/-- Any text of the tokens that the grammar derives for a tree is split into these tokens, and
the tree is read from them. -/
theorem read_of_spaced {ts : List Token} {t : Tree} {formula : String}
    (h : Spaced ts formula.toList) (hlexical : ∀ a ∈ ts, a.Lexical) (hderived : Expression ts t)
    (hheight : t.height ≤ depthLimit) (hwithin : WithinLimit 0 ts) :
    tokenize formula = .ok (ts ++ [Token.endMark]) ∧ parse (ts ++ [Token.endMark]) = .ok t := by
  have htake : (ts ++ [Token.endMark]).takeWhile (fun a => !a.isEnd) = ts := by
    rw [List.takeWhile_append_of_pos fun a ha => by simp [(hlexical a ha).isEnd]]
    simp
  constructor
  · exact scan_of_spaced h hlexical hderived.joined.fits
  · refine parse_of_derived ?_ hheight ?_ <;> rwa [htake]

/-- A leaf alone is one token and is read as itself. -/
theorem read_leaf {a : Token} {t : Tree} {formula : String} (hleaf : Leaf a t)
    (hlexical : a.Lexical) (hspelling : a.spelling = formula.toList) :
    tokenize formula = .ok [a, Token.endMark] ∧ read formula = .ok t := by
  have hspaced : Spaced [a] formula.toList := by
    simpa [hspelling] using spaced_spelling [a]
  have hheight : t.height ≤ depthLimit := by
    rw [hleaf.height]
    decide
  obtain ⟨htokens, hparse⟩ := read_of_spaced hspaced (List.forall_mem_singleton.mpr hlexical)
    (.term (.factor (.leaf hleaf))) hheight (withinLimit_leaf hleaf (by rwa [Nat.zero_add]))
  refine ⟨htokens, ?_⟩
  rw [read, htokens]
  exact hparse

/-- A reference alone is read as itself. -/
theorem read_reference {address : String} (h : LexemeClass.reference.Contains address.toList) :
    read address = .ok (.reference address) :=
  (read_leaf (.reference address) (lexical_reference h) rfl).2

end Formula

end Spreadsheet
