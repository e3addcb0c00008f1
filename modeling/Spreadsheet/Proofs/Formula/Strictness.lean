import Spreadsheet.Proofs.Formula.References

/-!
# Strictness

All operands and arguments are evaluated, from left to right and before what is above them, and
the first fault that comes up is the fault of the whole tree.

- `Tree.children`, `Tree.nodes`: the trees right below a tree, and all nodes of
  it in post-order.
- `exists_evaluate_eq`: the children are evaluated first, and nothing else of them
  counts than their values.
- `AllHaveValues`, `FailsItself`, `FirstFails`: nodes with values, a node that fails on its own
  account, and the first such node.
- `allHaveValues_of_ok`, `firstFails_of_error`: what the outcome of a tree says of its nodes.
- `evaluate_strict`: both, and that nothing after the first fault counts.
-/

namespace Spreadsheet

namespace Formula

namespace Tree

/-! ## Nodes in post-order -/

/-- The operands or arguments of a tree, from left to right. -/
def children : Tree → List Tree
  | number _ | text _ | reference _ => []
  | operation _ left right => [left, right]
  | call _ arguments => arguments

mutual

/-- The nodes of a tree, each as the tree that starts there. They come in post-order: those
below a node before it, from left to right. -/
def nodes : Tree → List Tree
  | number x => [number x]
  | text s => [text s]
  | reference address => [reference address]
  | operation op left right => left.nodes ++ right.nodes ++ [operation op left right]
  | call function arguments => nodesOfAll arguments ++ [call function arguments]

/-- The nodes of several trees, from left to right. -/
def nodesOfAll : List Tree → List Tree
  | [] => []
  | t :: ts => t.nodes ++ nodesOfAll ts

end

theorem nodes_eq (t : Tree) : t.nodes = nodesOfAll t.children ++ [t] := by
  cases t with
  | number x => rfl
  | text s => rfl
  | reference address => rfl
  | operation op left right =>
    show left.nodes ++ right.nodes ++ _ = left.nodes ++ (right.nodes ++ []) ++ _
    rw [List.append_nil]
  | call function arguments => rfl

theorem self_mem_nodes (t : Tree) : t ∈ t.nodes := by
  rw [nodes_eq]
  exact List.mem_concat_self

theorem mem_nodesOfAll {t : Tree} {ts : List Tree} (h : t ∈ ts) : t ∈ nodesOfAll ts := by
  induction ts with
  | nil => cases h
  | cons u ts ih =>
    rcases List.mem_cons.mp h with rfl | h
    · exact List.mem_append_left _ t.self_mem_nodes
    · exact List.mem_append_right _ (ih h)

mutual

/-- What holds of a tree whenever it holds of its children holds of all trees. -/
theorem of_children {P : Tree → Prop} (below : ∀ t : Tree, (∀ u ∈ t.children, P u) → P t)
    (t : Tree) : P t := by
  refine below t ?_
  cases t with
  | number x => exact nofun
  | text s => exact nofun
  | reference address => exact nofun
  | operation op left right =>
    exact List.forall_mem_cons.mpr
      ⟨of_children below left, List.forall_mem_singleton.mpr (of_children below right)⟩
  | call function arguments => exact forall_of_children below arguments

theorem forall_of_children {P : Tree → Prop} (below : ∀ t : Tree, (∀ u ∈ t.children, P u) → P t)
    (ts : List Tree) : ∀ t ∈ ts, P t := by
  cases ts with
  | nil => exact nofun
  | cons t ts =>
    exact List.forall_mem_cons.mpr ⟨of_children below t, forall_of_children below ts⟩

end

end Tree

open Formula.Tree

variable {cells : Option Cells} {limit : Nat}

/-- A tree evaluates its children, and makes something of their values. -/
theorem exists_evaluate_eq (cells : Option Cells) (limit : Nat) (t : Tree) :
    ∃ result : List Value → Except Fault Value,
      t.evaluate cells limit = evaluateAllWith (follow cells limit) t.children >>= result := by
  cases t with
  | number x => exact ⟨fun _ => .ok (.number x), rfl⟩
  | text s => exact ⟨fun _ => .ok (.text s), rfl⟩
  | reference address => exact ⟨fun _ => follow cells limit address, rfl⟩
  | operation op left right =>
    refine ⟨fun vs => op.operate (vs.getD 0 .empty) (vs.getD 1 .empty), ?_⟩
    rw [Tree.evaluate, evaluateWith, children, evaluateAllWith, evaluateAllWith,
      evaluateAllWith]
    cases left.evaluateWith (follow cells limit) with
    | error e => rfl
    | ok x => cases right.evaluateWith (follow cells limit) <;> rfl
  | call function arguments => exact ⟨callFunction function, rfl⟩

/-! ## The first fault -/

/-- Each of the nodes has a value. -/
def AllHaveValues (cells : Option Cells) (limit : Nat) (ns : List Tree) : Prop :=
  ∀ u ∈ ns, ∃ v, u.evaluate cells limit = .ok v

/-- The node has a fault although all of its children have values. -/
structure FailsItself (cells : Option Cells) (limit : Nat) (t : Tree) (e : Fault) : Prop where
  fault : t.evaluate cells limit = .error e
  children : AllHaveValues cells limit t.children

/-- The first of the nodes without a value fails itself. -/
def FirstFails (cells : Option Cells) (limit : Nat) (ns : List Tree) (e : Fault) : Prop :=
  ∃ before u after, ns = before ++ u :: after ∧ AllHaveValues cells limit before ∧
    FailsItself cells limit u e

section

variable {ns ms : List Tree} {e : Fault}

theorem AllHaveValues.append (hns : AllHaveValues cells limit ns)
    (hms : AllHaveValues cells limit ms) : AllHaveValues cells limit (ns ++ ms) := by
  intro u hu
  rcases List.mem_append.mp hu with hu | hu
  · exact hns u hu
  · exact hms u hu

theorem FirstFails.append_right (h : FirstFails cells limit ns e) (ms : List Tree) :
    FirstFails cells limit (ns ++ ms) e := by
  obtain ⟨before, u, after, rfl, hbefore, hu⟩ := h
  exact ⟨before, u, after ++ ms, by rw [List.append_assoc, List.cons_append], hbefore, hu⟩

theorem FirstFails.append_left (hns : AllHaveValues cells limit ns)
    (h : FirstFails cells limit ms e) : FirstFails cells limit (ns ++ ms) e := by
  obtain ⟨before, u, after, rfl, hbefore, hu⟩ := h
  exact ⟨ns ++ before, u, after, (List.append_assoc ..).symm, hns.append hbefore, hu⟩

/-- There is one first fault: what comes after a node without a value does not count. -/
theorem FirstFails.unique (h : FirstFails cells limit ns e) {before after : List Tree}
    {u : Tree} {d : Fault}
    (hns : ns = before ++ u :: after) (hbefore : AllHaveValues cells limit before)
    (hu : u.evaluate cells limit = .error d) : d = e := by
  obtain ⟨before', u', after', hns', hbefore', hu'⟩ := h
  have hfault {t : Tree} {d : Fault} (ht : ∃ v, t.evaluate cells limit = .ok v) :
      t.evaluate cells limit ≠ .error d := by
    rintro he
    obtain ⟨v, hv⟩ := ht
    cases hv.symm.trans he
  -- both nodes are the first one that has no value
  rw [hns] at hns'
  rcases List.append_eq_append_iff.mp hns' with ⟨more, rfl, hmore⟩ | ⟨more, rfl, hmore⟩
  · cases more with
    | nil =>
      cases hmore
      cases hu.symm.trans hu'.fault
      rfl
    | cons t more =>
      cases hmore
      exact absurd hu (hfault (hbefore' u (List.mem_append_right _ List.mem_cons_self)))
  · cases more with
    | nil =>
      cases hmore
      cases hu.symm.trans hu'.fault
      rfl
    | cons t more =>
      cases hmore
      exact absurd hu'.fault (hfault (hbefore u' (List.mem_append_right _ List.mem_cons_self)))

end

/-! ## Trees -/

section

variable {ts : List Tree} {vs : List Value} {e : Fault}

theorem allHaveValues_nodesOfAll
    (hts : ∀ t ∈ ts, ∀ v, t.evaluate cells limit = .ok v → AllHaveValues cells limit t.nodes)
    (h : evaluateAllWith (follow cells limit) ts = .ok vs) :
    AllHaveValues cells limit (nodesOfAll ts) := by
  induction ts generalizing vs with
  | nil => exact nofun
  | cons t ts ih =>
    obtain ⟨v, hv, h⟩ := bind_eq_ok_iff.mp h
    obtain ⟨ws, hws, -⟩ := bind_eq_ok_iff.mp h
    exact (hts t List.mem_cons_self v hv).append
      (ih (fun u hu => hts u (List.mem_cons_of_mem t hu)) hws)

/-- A tree has a value only if each of its nodes has one. -/
theorem allHaveValues_of_ok (t : Tree) :
    ∀ v, t.evaluate cells limit = .ok v → AllHaveValues cells limit t.nodes := by
  induction t using of_children with
  | below t ih =>
    intro v hv
    obtain ⟨result, hresult⟩ := exists_evaluate_eq cells limit t
    obtain ⟨vs, hvs, -⟩ := bind_eq_ok_iff.mp (hresult.symm.trans hv)
    rw [nodes_eq]
    exact (allHaveValues_nodesOfAll ih hvs).append (List.forall_mem_singleton.mpr ⟨v, hv⟩)

theorem firstFails_nodesOfAll
    (hts : ∀ t ∈ ts, ∀ e, t.evaluate cells limit = .error e → FirstFails cells limit t.nodes e)
    (h : evaluateAllWith (follow cells limit) ts = .error e) :
    FirstFails cells limit (nodesOfAll ts) e := by
  induction ts with
  | nil => cases h
  | cons t ts ih =>
    rcases bind_eq_error_iff.mp h with h | ⟨v, hv, h⟩
    · exact (hts t List.mem_cons_self e h).append_right _
    rcases bind_eq_error_iff.mp h with h | ⟨vs, -, h⟩
    · exact (ih (fun u hu => hts u (List.mem_cons_of_mem t hu)) h).append_left
        (allHaveValues_of_ok t v hv)
    · cases h

/-- The fault of a tree is that of the first node that fails itself. -/
theorem firstFails_of_error (t : Tree) :
    ∀ e, t.evaluate cells limit = .error e → FirstFails cells limit t.nodes e := by
  induction t using of_children with
  | below t ih =>
    intro e he
    obtain ⟨result, hresult⟩ := exists_evaluate_eq cells limit t
    rw [nodes_eq]
    rcases bind_eq_error_iff.mp (hresult.symm.trans he) with h | ⟨vs, hvs, -⟩
    · exact (firstFails_nodesOfAll ih h).append_right _
    · -- all children have values, and so have all nodes below them
      have hbelow : AllHaveValues cells limit (nodesOfAll t.children) :=
        allHaveValues_nodesOfAll (fun u _ => allHaveValues_of_ok u) hvs
      refine ⟨nodesOfAll t.children, t, [], rfl, hbelow, he, fun u hu => ?_⟩
      exact hbelow u (mem_nodesOfAll hu)

end

/-- A tree has a value if and only if all its nodes have values. Otherwise its fault is that of
the first node, in post-order, that fails although its children have values; all nodes before it
have values. So the first fault that comes up counts, whatever is above it or to its right. -/
theorem evaluate_strict (cells : Option Cells) (limit : Nat) (t : Tree) :
    ((∃ v, t.evaluate cells limit = .ok v) ↔ AllHaveValues cells limit t.nodes) ∧
    (∀ e, t.evaluate cells limit = .error e ↔ FirstFails cells limit t.nodes e) ∧
    (∀ before u after e, t.nodes = before ++ u :: after → AllHaveValues cells limit before →
      u.evaluate cells limit = .error e → t.evaluate cells limit = .error e) := by
  have hfirst {before u after e} (hnodes : t.nodes = before ++ u :: after)
      (hbefore : AllHaveValues cells limit before) (hu : u.evaluate cells limit = .error e) :
      t.evaluate cells limit = .error e := by
    cases ht : t.evaluate cells limit with
    | ok v =>
      have hmem : u ∈ t.nodes := hnodes ▸ List.mem_append_right before List.mem_cons_self
      obtain ⟨w, hw⟩ := allHaveValues_of_ok t v ht u hmem
      cases hw.symm.trans hu
    | error d => rw [(firstFails_of_error t d ht).unique hnodes hbefore hu]
  refine ⟨⟨fun ⟨v, hv⟩ => allHaveValues_of_ok t v hv, fun h => h t t.self_mem_nodes⟩,
    fun e => ⟨firstFails_of_error t e, ?_⟩, fun before u after e => hfirst⟩
  rintro ⟨before, u, after, hnodes, hbefore, hu⟩
  exact hfirst hnodes hbefore hu.fault

/-- A text is no operand: this fault counts although the function above is unknown and the
argument to the right is a reference without cells to refer to. -/
theorem evaluate_strict_unknownFunction :
    (Tree.call "NOPE"
      [.operation .concat (.text "a") (.text "b"), .reference "A1"]).evaluate none 64 =
      .error .invalidOperation := by
  refine (evaluate_strict none 64 _).2.2 [.text "a", .text "b"] _ _ _ rfl ?_ rfl
  exact List.forall_mem_cons.mpr ⟨⟨_, rfl⟩, List.forall_mem_singleton.mpr ⟨_, rfl⟩⟩

end Formula

end Spreadsheet
