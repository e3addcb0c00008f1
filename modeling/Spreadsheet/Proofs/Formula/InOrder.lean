import Spreadsheet.Proofs.Formula.Reading

/-!
# Trees in the order of their tokens

A tree that is read holds what the tokens hold, in their order. Only parentheses and
commas leave nothing in it.

- `Item`: what one place of a tree holds; `Tree.inOrder`: the items of a tree
  from left to right.
- `Item.ofToken?`: the item that a token stands for.
- `Token.isPunctuation`, `itemsOf`: the tokens that stand for no item, and the
  items of all others.
- `Tree.references_eq_filterMap`, `filterMap_itemsOf`: the references among the items
  of a tree and of tokens.
- `Expression.items`, `Arguments.items`: derived tokens stand for the items of
  the tree, in order.
- `parse_inOrder`: both, for a whole list of tokens.
-/

namespace Spreadsheet

namespace Formula

open Grammar Token

/-! ## Items -/

/-- What one place of a tree holds: an operand, an operator, or the name of a function. -/
inductive Item where
  | number (x : Float)
  | text (s : String)
  | reference (address : String)
  | operator (op : Operator)
  | function (name : String)

namespace Item

/-- The item that a token stands for. -/
def ofToken? (a : Token) : Option Item :=
  match a.kind with
  | .number => (readNumber? a.text).map number
  | .characters => some (text a.text)
  | .reference => some (reference a.text)
  | .operator => (Operator.ofSymbol? a.text).map operator
  | .function => some (function a.text)
  | .formula => none

/-- The address, if the item is a reference. -/
def address? : Item → Option String
  | reference address => some address
  | _ => none

end Item

namespace Tree

mutual

/-- The items of a tree from left to right: an operator between its operands, the name of a
function before its arguments. -/
def inOrder : Tree → List Item
  | number x => [.number x]
  | text s => [.text s]
  | reference address => [.reference address]
  | operation op left right => left.inOrder ++ .operator op :: right.inOrder
  | call function arguments => .function function :: inOrderOfAll arguments

/-- The items of several trees from left to right. -/
def inOrderOfAll : List Tree → List Item
  | [] => []
  | t :: ts => t.inOrder ++ inOrderOfAll ts

end

mutual

/-- The references of a tree are those among its items. -/
theorem references_eq_filterMap (t : Tree) :
    t.references = t.inOrder.filterMap Item.address? := by
  cases t with
  | number x => rfl
  | text s => rfl
  | reference address => rfl
  | operation op left right =>
    rw [references, inOrder, List.filterMap_append, left.references_eq_filterMap,
      right.references_eq_filterMap]
    rfl
  | call function arguments => exact referencesOfAll_eq_filterMap arguments

theorem referencesOfAll_eq_filterMap (ts : List Tree) :
    referencesOfAll ts = (inOrderOfAll ts).filterMap Item.address? := by
  cases ts with
  | nil => rfl
  | cons t ts =>
    rw [referencesOfAll, inOrderOfAll, List.filterMap_append, t.references_eq_filterMap,
      referencesOfAll_eq_filterMap ts]

end

end Tree

/-! ## Tokens -/

/-- Is the token a parenthesis or a comma? -/
def Token.isPunctuation (a : Token) : Bool := a == opening || a == closing || a == comma

/-- The items that tokens stand for, apart from parentheses and commas. -/
def itemsOf (ts : List Token) : List (Option Item) :=
  (ts.filter fun a => !a.isPunctuation).map Item.ofToken?

section

variable {a : Token} {ts us : List Token}

theorem isPunctuation_of_kind (ha : a.kind ≠ .operator) : a.isPunctuation = false := by
  have hne {b : Token} (hb : b.kind = .operator) : (a == b) = false := by
    rw [beq_eq_false_iff_ne]
    rintro rfl
    exact ha hb
  rw [isPunctuation, hne rfl, hne rfl, hne rfl]
  rfl

theorem isPunctuation_ofOperator (op : Operator) : (ofOperator op).isPunctuation = false := by
  cases op <;> decide

theorem itemsOf_append (ts us : List Token) :
    itemsOf (ts ++ us) = itemsOf ts ++ itemsOf us := by
  unfold itemsOf
  rw [List.filter_append, List.map_append]

/-- A parenthesis or a comma stands for nothing. -/
theorem itemsOf_cons_of_punctuation (ha : a.isPunctuation = true) (ts : List Token) :
    itemsOf (a :: ts) = itemsOf ts := by
  unfold itemsOf
  rw [List.filter_cons_of_neg (by simp [ha])]

/-- Any other token stands for one item. -/
theorem itemsOf_cons (ha : a.isPunctuation = false) (ts : List Token) :
    itemsOf (a :: ts) = Item.ofToken? a :: itemsOf ts := by
  unfold itemsOf
  rw [List.filter_cons_of_pos (by simp [ha])]
  rfl

theorem itemsOf_ofOperator_cons (op : Operator) (ts : List Token) :
    itemsOf (ofOperator op :: ts) = some (.operator op) :: itemsOf ts := by
  rw [itemsOf_cons (isPunctuation_ofOperator op)]
  show (Operator.ofSymbol? op.symbol).map Item.operator :: itemsOf ts = _
  rw [Operator.ofSymbol?_symbol]
  rfl

theorem itemsOf_name_cons (function : String) (ts : List Token) :
    itemsOf (⟨.function, function⟩ :: ts) = some (.function function) :: itemsOf ts := by
  have hname : TokenKind.function ≠ .operator := by decide
  exact itemsOf_cons (isPunctuation_of_kind hname) ts

theorem itemsOf_enclosed (ts : List Token) :
    itemsOf (opening :: ts ++ [closing]) = itemsOf ts := by
  rw [List.cons_append, itemsOf_cons_of_punctuation (by decide), itemsOf_append,
    itemsOf_cons_of_punctuation (by decide)]
  exact List.append_nil _

theorem bind_address_ofToken? (a : Token) :
    (Item.ofToken? a).bind Item.address? =
      if a.kind = .reference then some a.text else none := by
  unfold Item.ofToken?
  cases a.kind with
  | number => cases readNumber? a.text <;> rfl
  | operator => cases Operator.ofSymbol? a.text <;> rfl
  | characters => rfl
  | reference => rfl
  | function => rfl
  | formula => rfl

/-- The references among the items of tokens are the texts of the reference tokens. -/
theorem filterMap_itemsOf (ts : List Token) :
    (itemsOf ts).filterMap (fun i => i.bind Item.address?) =
      (ts.filter fun a => a.kind = .reference).map Token.text := by
  induction ts with
  | nil => rfl
  | cons a ts ih =>
    by_cases ha : a.kind = .reference
    · have hplain : a.isPunctuation = false := isPunctuation_of_kind (ha ▸ nofun)
      rw [itemsOf_cons hplain, List.filterMap_cons, bind_address_ofToken?, if_pos ha,
        List.filter_cons_of_pos (by simp [ha]), List.map_cons, ih]
    · rw [List.filter_cons_of_neg (by simp [ha]), ← ih]
      cases hplain : a.isPunctuation with
      | true => rw [itemsOf_cons_of_punctuation hplain]
      | false => rw [itemsOf_cons hplain, List.filterMap_cons, bind_address_ofToken?, if_neg ha]

end

/-! ## Derivations -/

namespace Grammar

theorem Leaf.items {a : Token} {t : Tree} (h : Leaf a t) :
    itemsOf [a] = t.inOrder.map some := by
  rw [itemsOf_cons (isPunctuation_of_kind h.kind_ne_operator)]
  cases h with
  | number hread =>
    show [(readNumber? _).map Item.number] = _
    rw [hread]
    rfl
  | reference address => rfl
  | characters s => rfl

/-- An operator stands between the items of its operands. -/
theorem items_operation {us vs : List Token} {l r : Tree} (op : Operator)
    (hl : itemsOf us = l.inOrder.map some) (hr : itemsOf vs = r.inOrder.map some) :
    itemsOf (us ++ ofOperator op :: vs) = (Tree.operation op l r).inOrder.map some := by
  rw [itemsOf_append, itemsOf_ofOperator_cons, hl, hr, Tree.inOrder, List.map_append,
    List.map_cons]

-- the recursion is on derivations; both repetitions add an operator and an operand to
-- what stands before them
mutual

/-- The tokens of an expression stand for the items of its tree. -/
theorem Expression.items {ts : List Token} {t : Tree} :
    Expression ts t → itemsOf ts = t.inOrder.map some
  | .term h => h.items
  | .operation op h _ k => items_operation op h.items k.items

/-- The tokens of a term stand for the items of its tree. -/
theorem Term.items {ts : List Token} {t : Tree} : Term ts t → itemsOf ts = t.inOrder.map some
  | .factor h => h.items
  | .operation op h _ k => items_operation op h.items k.items

/-- The tokens of a factor stand for the items of its tree. -/
theorem Factor.items {ts : List Token} {t : Tree} :
    Factor ts t → itemsOf ts = t.inOrder.map some
  | .leaf h => h.items
  | .group h => (itemsOf_enclosed _).trans h.items
  | .call h => by
    rw [List.cons_append, itemsOf_name_cons, itemsOf_enclosed, h.items]
    rfl

/-- The tokens of an argument list stand for the items of its trees. -/
theorem Arguments.items {ts : List Token} {args : List Tree} :
    Arguments ts args → itemsOf ts = (Tree.inOrderOfAll args).map some
  | .none => rfl
  | .last h => by rw [h.items, Tree.inOrderOfAll, Tree.inOrderOfAll, List.append_nil]
  | .more h k => by
    rw [itemsOf_append, itemsOf_cons_of_punctuation (by decide), h.items, k.items,
      Tree.inOrderOfAll, List.map_append]

end

end Grammar

/-! ## Whole lists of tokens -/

/-- A tree that is read holds what stands in the tokens up to the mark at their end, in the same
order. Its references are those tokens that are references; and each token but the parentheses
and commas is one item of the tree, from left to right. -/
theorem parse_inOrder {tokens : List Token} {t : Tree} (h : parse tokens = .ok t) :
    let us := tokens.takeWhile fun a => !a.isEnd
    t.references = (us.filter fun a => a.kind = .reference).map Token.text ∧
    (us.filter fun a => !a.isPunctuation).map Item.ofToken? = t.inOrder.map some := by
  intro us
  have hitems : itemsOf us = t.inOrder.map some := (derived_of_parse h).1.items
  refine ⟨?_, hitems⟩
  rw [← filterMap_itemsOf, hitems, List.filterMap_map, t.references_eq_filterMap]
  rfl

/-- `A1-(B2+SUM(C3,"x",))` with the mark at its end, and one token more behind it. -/
theorem parse_inOrder_difference :
    let tokens := [⟨.reference, "A1"⟩, ofOperator .subtract, opening, ⟨.reference, "B2"⟩,
      ofOperator .add, ⟨.function, "SUM"⟩, opening, ⟨.reference, "C3"⟩, comma,
      ⟨.characters, "x"⟩, comma, closing, closing, endMark, ⟨.reference, "D4"⟩]
    let tree := Tree.operation .subtract (.reference "A1")
      (.operation .add (.reference "B2") (.call "SUM" [.reference "C3", .text "x"]))
    parse tokens = .ok tree ∧ tree.references = ["A1", "B2", "C3"] ∧
      ((tokens.takeWhile fun a => !a.isEnd).filter fun a => !a.isPunctuation).map
        Item.ofToken? = tree.inOrder.map some := by
  intro tokens tree
  have h : parse tokens = .ok tree := by cbv
  obtain ⟨hreferences, hitems⟩ := parse_inOrder h
  exact ⟨h, hreferences, hitems⟩

end Formula

end Spreadsheet
