/-!
# Outcomes of steps

A computation that may fail is a chain of steps, and its outcome is the first fault or the
result of the last step.

- `bind_eq_ok_iff`: two steps succeed when both do.
- `bind_eq_error_iff`: two steps fail when the first does, or the second after it.
- `bind_eq_of_ne`: if two steps do not have a certain fault, others that differ only where they
  have it come to the same.
- `bind_eq_of_map_eq`: a step that reads only a part of a result comes to the same
  wherever this part is the same.
- `map_eq_ok_iff`, `map_eq_error_iff`: a result that is only changed is there,
  or is not, as it was.
-/

namespace Spreadsheet

universe u v

variable {ε : Type u} {α β : Type v}

theorem bind_eq_ok_iff {x : Except ε α} {f : α → Except ε β} {b : β} :
    (x >>= f) = .ok b ↔ ∃ a, x = .ok a ∧ f a = .ok b := by
  cases x with
  | error e => exact ⟨nofun, fun ⟨_, h, _⟩ => nomatch h⟩
  | ok a => exact ⟨fun h => ⟨a, rfl, h⟩, fun ⟨_, h, k⟩ => Except.ok.inj h ▸ k⟩

theorem bind_eq_error_iff {x : Except ε α} {f : α → Except ε β} {e : ε} :
    (x >>= f) = .error e ↔ x = .error e ∨ ∃ a, x = .ok a ∧ f a = .error e := by
  cases x with
  | error d =>
    constructor
    · intro h
      exact .inl (congrArg Except.error (Except.error.inj h))
    · rintro (h | ⟨_, h, _⟩)
      · exact congrArg Except.error (Except.error.inj h)
      · cases h
  | ok a =>
    constructor
    · intro h
      exact .inr ⟨a, rfl, h⟩
    · rintro (h | ⟨_, h, k⟩)
      · cases h
      · exact Except.ok.inj h ▸ k

/-- The first fault decides, so what comes after another fault does not count. -/
theorem bind_eq_of_ne {x y : Except ε α} {f g : α → Except ε β} {e : ε}
    (h : (x >>= f) ≠ .error e) (hfirst : x ≠ .error e → y = x)
    (hthen : ∀ a, x = .ok a → f a ≠ .error e → g a = f a) : (y >>= g) = (x >>= f) := by
  cases x with
  | error d =>
    rw [hfirst fun hd => h (bind_eq_error_iff.mpr (.inl hd))]
    rfl
  | ok a =>
    rw [hfirst nofun]
    exact hthen a rfl h

/-- What a step does not read of a result makes no difference. -/
theorem bind_eq_of_map_eq {γ : Type v} {x y : Except ε α} {g : α → γ} {f : α → Except ε β}
    (h : x.map g = y.map g) (hf : ∀ a b, g a = g b → f a = f b) : (x >>= f) = (y >>= f) := by
  cases x with
  | error d =>
    cases y with
    | error e => exact congrArg Except.error (Except.error.inj h)
    | ok b => cases h
  | ok a =>
    cases y with
    | error e => cases h
    | ok b => exact hf a b (Except.ok.inj h)

theorem map_eq_ok_iff {x : Except ε α} {f : α → β} {b : β} :
    x.map f = .ok b ↔ ∃ a, x = .ok a ∧ f a = b := by
  cases x with
  | error e => exact ⟨nofun, fun ⟨_, h, _⟩ => nomatch h⟩
  | ok a =>
    exact ⟨fun h => ⟨a, rfl, Except.ok.inj h⟩,
      fun ⟨_, h, k⟩ => Except.ok.inj h ▸ congrArg Except.ok k⟩

theorem map_eq_error_iff {x : Except ε α} {f : α → β} {e : ε} :
    x.map f = .error e ↔ x = .error e := by
  cases x with
  | error d =>
    constructor
    · intro h
      exact congrArg Except.error (Except.error.inj h)
    · intro h
      exact congrArg Except.error (Except.error.inj h)
  | ok a => exact ⟨nofun, nofun⟩

end Spreadsheet
