import Spreadsheet.Proofs.Formula.References

/-!
# Chains of references

A reference leads to a cell, the formula of the cell to further references, and so on.
How far such chains go decides whether the limit on them is met; whether they run in
circles does not matter.

- `Content.evaluateWith`, `follow_succ`: one reference is followed.
- `follow_eq_of_le`, `evaluate_eq_of_le`: what is settled under a limit is the
  same under every higher one.
- `Chain`: a list of references each of which leads to the next.
- `not_ok_of_chain`: a chain that is longer than the limit leaves no value.
- `evaluate_error_cases`: where the faults of a tree come from.
- `exists_chain_of_chainTooLong`: only a chain that is longer than the limit is too long.
- `evaluate_limit_exact`: both.
-/

namespace Spreadsheet

namespace Formula

/-! ## One reference -/

/-- The value of what a referenced cell holds, given the values of the references in it. -/
def Content.evaluateWith (reference : String → Except Fault Value) :
    Content → Except Fault Value
  | absent => .ok .empty
  | value v => .ok v
  | formula t => t.evaluateWith reference

theorem follow_zero (look : Cells) (a : String) :
    follow (some look) 0 a = .error .chainTooLong := rfl

theorem follow_succ (look : Cells) (limit : Nat) (a : String) :
    follow (some look) (limit + 1) a =
      look a >>= Content.evaluateWith (follow (some look) limit) := by
  rw [follow]
  cases look a with
  | error e => rfl
  | ok content => cases content <;> rfl

/-! ## Higher limits -/

/-- A reference that is settled under a limit is the same under every higher one. -/
theorem follow_eq_of_le {cells : Option Cells} {limit more : Nat}
    (hle : limit ≤ more) {a : String} (h : follow cells limit a ≠ .error .chainTooLong) :
    follow cells more a = follow cells limit a := by
  cases cells with
  | none => cases limit <;> cases more <;> rfl
  | some look =>
    -- the two runs differ only where the lower limit is used up
    induction limit generalizing more a with
    | zero => exact absurd (follow_zero look a) h
    | succ limit ih =>
      obtain ⟨more, rfl⟩ := Nat.exists_eq_add_of_lt (Nat.lt_of_lt_of_le limit.succ_pos hle)
      rw [Nat.zero_add] at hle ⊢
      rw [follow_succ] at h ⊢
      rw [follow_succ]
      cases hlook : look a with
      | error e => rfl
      | ok content =>
        rw [hlook] at h
        cases content with
        | absent => rfl
        | value v => rfl
        | formula t =>
          refine t.evaluateWith_eq_of_ne (fun b _ hb => ?_) h
          exact ih (Nat.le_of_succ_le_succ hle) hb

/-- A result other than the fault of the limit is the same under every higher limit. -/
theorem evaluate_eq_of_le (cells : Option Cells) (t : Tree) {limit more : Nat}
    (hle : limit ≤ more) (h : t.evaluate cells limit ≠ .error .chainTooLong) :
    t.evaluate cells more = t.evaluate cells limit :=
  t.evaluateWith_eq_of_ne (fun _ _ ha => follow_eq_of_le hle ha) h

/-- `A1` leads to `B1`, which holds a text, and all other cells are empty. -/
def throughB1 : Cells
  | "A1" => .ok (.formula (.reference "B1"))
  | "B1" => .ok (.value (.text "end"))
  | _ => .ok .absent

theorem evaluate_throughB1_of_two :
    (Tree.reference "A1").evaluate (some throughB1) 2 ≠ .error .chainTooLong ∧
      (Tree.reference "A1").evaluate (some throughB1) usualLimit =
        (Tree.reference "A1").evaluate (some throughB1) 2 := by
  have h : (Tree.reference "A1").evaluate (some throughB1) 2 ≠ .error .chainTooLong := nofun
  exact ⟨h, evaluate_eq_of_le _ _ (by decide) h⟩

/-! ## Chains and the limit -/

/-- References that lead one to the next: the first stands in a tree, and each later one in the
formula to which the one before it leads. -/
inductive Chain (look : Cells) : Tree → List String → Prop where
  | last {t : Tree} {a : String} (ha : a ∈ t.references) : Chain look t [a]
  | step {t u : Tree} {a : String} {as : List String} (ha : a ∈ t.references)
      (hlook : look a = .ok (.formula u)) (h : Chain look u as) : Chain look t (a :: as)

section

variable {look : Cells} {t : Tree}

/-- A chain that is longer than the limit leaves no value. -/
theorem not_ok_of_chain {as : List String} (h : Chain look t as) {limit : Nat}
    (hlong : limit < as.length) (v : Value) : t.evaluate (some look) limit ≠ .ok v := by
  intro hv
  -- each reference of the chain uses up one of the limit, and all of them must have values
  induction h generalizing limit v with
  | last ha =>
    obtain ⟨w, hw⟩ := Tree.ok_of_evaluateWith _ hv _ ha
    obtain rfl : limit = 0 := Nat.lt_one_iff.mp hlong
    cases hw
  | step ha hlook _ ih =>
    obtain ⟨w, hw⟩ := Tree.ok_of_evaluateWith _ hv _ ha
    cases limit with
    | zero => cases hw
    | succ limit =>
      rw [follow_succ, hlook] at hw
      exact ih (Nat.lt_of_succ_lt_succ hlong) w hw

/-- A fault of a tree is about operands, or it is the fault of the limit and a chain is longer
than that, or it is the fault of a look at the end of a chain that is not longer. -/
theorem evaluate_error_cases {limit : Nat} {e : Fault}
    (h : t.evaluate (some look) limit = .error e) :
    e.isOfOperands = true ∨
    (e = .chainTooLong ∧ ∃ as, Chain look t as ∧ limit < as.length) ∨
    ∃ as a, Chain look t (as ++ [a]) ∧ as.length < limit ∧ look a = .error e := by
  -- the fault is followed back to a reference, and from there to the formula behind it
  induction limit generalizing t with
  | zero =>
    rcases t.error_of_evaluateWith h with h | ⟨a, ha, h⟩
    · exact .inl h
    · cases h
      exact .inr (.inl ⟨rfl, [a], .last ha, Nat.one_pos⟩)
  | succ limit ih =>
    rcases t.error_of_evaluateWith h with h | ⟨a, ha, h⟩
    · exact .inl h
    rw [follow_succ] at h
    rcases bind_eq_error_iff.mp h with h | ⟨content, hlook, h⟩
    · exact .inr (.inr ⟨[], a, .last ha, limit.succ_pos, h⟩)
    cases content with
    | absent => cases h
    | value v => cases h
    | formula u =>
      rcases ih h with h | ⟨he, as, has, hlong⟩ | ⟨as, b, has, hshort, h⟩
      · exact .inl h
      · exact .inr (.inl ⟨he, a :: as, .step ha hlook has, Nat.succ_lt_succ hlong⟩)
      · exact .inr (.inr ⟨a :: as, b, .step ha hlook has, Nat.succ_lt_succ hshort, h⟩)

/-- If the limit was met, and not by a look at the end of a chain, then a chain is
longer than the limit. -/
theorem exists_chain_of_chainTooLong
    (hlooks : ∀ as a, Chain look t (as ++ [a]) → look a ≠ .error .chainTooLong) {limit : Nat}
    (h : t.evaluate (some look) limit = .error .chainTooLong) :
    ∃ as, Chain look t as ∧ limit < as.length := by
  rcases evaluate_error_cases h with h | ⟨-, h⟩ | ⟨as, a, has, -, h⟩
  · cases h
  · exact h
  · exact absurd h (hlooks as a has)

/-- Where two references lead to each other, the limit is always met. -/
theorem follow_eq_chainTooLong {a b : String} (ha : look a = .ok (.formula (.reference b)))
    (hb : look b = .ok (.formula (.reference a))) (limit : Nat) :
    follow (some look) limit a = .error .chainTooLong := by
  induction limit generalizing a b with
  | zero => rfl
  | succ limit ih =>
    rw [follow_succ, ha]
    exact ih hb ha

end

/-- The limit is exact: a tree with a longer chain has no value. A tree without one does not
meet the limit, unless a look at the end of a chain answers by itself that the limit was met. A
look at a sheet follows no references and never answers so, which is
`Sheet.content_ne_chainTooLong`. -/
theorem evaluate_limit_exact (look : Cells) (t : Tree) (limit : Nat) :
    ((∃ as, Chain look t as ∧ limit < as.length) →
      ∀ v, t.evaluate (some look) limit ≠ .ok v) ∧
    ((∀ as a, Chain look t (as ++ [a]) → look a ≠ .error .chainTooLong) →
      (∀ as, Chain look t as → as.length ≤ limit) →
      t.evaluate (some look) limit ≠ .error .chainTooLong) := by
  constructor
  · rintro ⟨as, has, hlong⟩
    exact not_ok_of_chain has hlong
  · intro hlooks hshort h
    obtain ⟨as, has, hlong⟩ := exists_chain_of_chainTooLong hlooks h
    exact Nat.not_lt.mpr (hshort as has) hlong

theorem chain_throughB1_length_le {as : List String}
    (h : Chain throughB1 (.reference "A1") as) : as.length ≤ 2 := by
  have hend {bs : List String} (h : Chain throughB1 (.reference "B1") bs) : bs.length ≤ 1 := by
    cases h with
    | last => exact Nat.le_refl 1
    | step ha hlook =>
      obtain rfl := List.mem_singleton.mp ha
      cases hlook
  cases h with
  | last => exact Nat.le_succ 1
  | step ha hlook h =>
    obtain rfl := List.mem_singleton.mp ha
    cases hlook
    exact Nat.succ_le_succ (hend h)

theorem throughB1_ne_chainTooLong (a : String) : throughB1 a ≠ .error .chainTooLong := by
  unfold throughB1
  split <;> nofun

theorem evaluate_throughB1_limit :
    (Tree.reference "A1").evaluate (some throughB1) 1 ≠ .ok (.text "end") ∧
      (Tree.reference "A1").evaluate (some throughB1) 2 ≠ .error .chainTooLong :=
  ⟨(evaluate_limit_exact throughB1 (.reference "A1") 1).1
      ⟨["A1", "B1"], .step (.head _) rfl (.last (.head _)), Nat.le_refl 2⟩ _,
    (evaluate_limit_exact throughB1 (.reference "A1") 2).2
      (fun _ a _ => throughB1_ne_chainTooLong a)
      fun _ => chain_throughB1_length_le⟩

/-- Each look answers by itself that the limit was met. -/
def exhausted : Cells := fun _ => .error .chainTooLong

/-- Behind such a look no chain goes on, and yet the fault is the one of the limit. -/
theorem evaluate_exhausted :
    (∀ as, Chain exhausted (.reference "A1") as → as.length ≤ 5) ∧
      (Tree.reference "A1").evaluate (some exhausted) 5 = .error .chainTooLong := by
  refine ⟨fun as has => ?_, rfl⟩
  cases has with
  | last => exact Nat.le_add_left 1 4
  | step _ hlook => cases hlook

end Formula

end Spreadsheet
