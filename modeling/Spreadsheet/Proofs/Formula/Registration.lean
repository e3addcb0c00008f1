import Mathlib.Data.List.Induction
import Spreadsheet.Formula.Catalogue

/-!
# Registering functions

A catalogue that was made by registering functions, one after the other, finds under a name the
last of them whose name is the same in upper case.

- `Catalogue.after`: the catalogue of every formula, with more functions registered.
- `Catalogue.find?_foldl_register`: what is found after any functions were registered.
- `Catalogue.Distinct`: no two functions of a catalogue share a name in upper
  case, however it was made.
- `Function.Runs`, `Function.runs_iff`, `Function.call_of_not_runs`: the arguments on which a
  function is run, and what a call comes to on all others.
- `Catalogue.find?_after`: what is found, and what calling it does.
-/

namespace Spreadsheet

namespace Formula

namespace Function

variable {f : Function} {arguments : List Value}

theorem takes_iff {count : Nat} :
    f.takes count = true ↔
      f.minimum ≤ count ∧ ∀ most, f.maximum = some most → count ≤ most := by
  rw [takes, Bool.and_eq_true, decide_eq_true_iff, Option.all_eq_true]
  simp only [decide_eq_true_iff]

/-- A call with these arguments is what the body makes of them, whatever the body is. -/
def Runs (f : Function) (arguments : List Value) : Prop :=
  ∀ body, { f with body := body }.call arguments = body arguments

theorem call_of_takes (h : f.takes arguments.length = true) :
    f.call arguments = f.body arguments :=
  if_pos h

/-- A call with too few or too many arguments does not depend on the body. -/
theorem call_of_not_takes (h : ¬ f.takes arguments.length = true) (body : Body) :
    { f with body := body }.call arguments = .error (.invalidArgument (Text.toLower f.name)) :=
  if_neg h

theorem runs_iff : f.Runs arguments ↔
    f.minimum ≤ arguments.length ∧ ∀ most, f.maximum = some most → arguments.length ≤ most := by
  rw [← takes_iff]
  constructor
  · intro h
    by_contra htakes
    -- a body without faults would be run
    have hempty := h fun _ => .ok .empty
    rw [call_of_not_takes htakes] at hempty
    cases hempty
  · intro h body
    exact call_of_takes (f := { f with body := body }) h

theorem call_of_not_runs (h : ¬ f.Runs arguments) (body : Body) :
    { f with body := body }.call arguments =
      .error (.invalidArgument (Text.toLower f.name)) := by
  refine call_of_not_takes (fun htakes => h ?_) body
  exact runs_iff.mpr (takes_iff.mp htakes)

end Function

namespace Catalogue

/-- The functions that every formula may call, in the order in which they are registered. -/
def builtInFunctions : List Function := [⟨"SUM", 0, none, sum⟩, ⟨"AVERAGE", 0, none, average⟩]

/-- The catalogue of every formula after some more functions were registered,
one after the other. -/
def after (functions : List Function) : Catalogue := functions.foldl register builtIn

theorem after_eq (functions : List Function) :
    after functions = (builtInFunctions ++ functions).foldl register empty := by
  rw [List.foldl_append]
  rfl

/-- The last function that was registered under a name is the first that is met from the end. -/
theorem find?_foldl_register (functions : List Function) (name : String) :
    (functions.foldl register empty).find? name =
      functions.reverse.find? fun f => Text.toUpper f.name == Text.toUpper name := by
  induction functions using List.reverseRecOn with
  | nil => rfl
  | append_singleton functions f ih =>
    rw [List.foldl_append, List.foldl_cons, List.foldl_nil, find?_register, List.reverse_append,
      List.reverse_singleton, List.singleton_append, List.find?_cons, ih]
    by_cases hf : Text.toUpper f.name = Text.toUpper name
    · rw [if_pos hf, beq_iff_eq.mpr hf]
    · rw [if_neg hf, beq_eq_false_iff_ne.mpr hf]

theorem find?_foldl_register_eq_some_iff {functions : List Function} {name : String}
    {f : Function} : (functions.foldl register empty).find? name = some f ↔
      ∃ before later, functions = before ++ f :: later ∧
        Text.toUpper f.name = Text.toUpper name ∧
        ∀ g ∈ later, Text.toUpper g.name ≠ Text.toUpper name := by
  rw [find?_foldl_register, List.find?_eq_some_iff_append]
  constructor
  · rintro ⟨hf, later, before, hreverse, hlater⟩
    refine ⟨before.reverse, later.reverse, ?_, beq_iff_eq.mp hf, fun g hg => ?_⟩
    · rw [← List.reverse_reverse functions, hreverse]
      simp
    · simpa using hlater g (List.mem_reverse.mp hg)
  · rintro ⟨before, later, rfl, hf, hlater⟩
    refine ⟨beq_iff_eq.mpr hf, later.reverse, before.reverse, by simp, fun g hg => ?_⟩
    simpa using hlater g (List.mem_reverse.mp hg)

theorem find?_foldl_register_eq_none_iff {functions : List Function} {name : String} :
    (functions.foldl register empty).find? name = none ↔
      ∀ f ∈ functions, Text.toUpper f.name ≠ Text.toUpper name := by
  rw [find?_foldl_register, List.find?_eq_none]
  simp only [List.mem_reverse, beq_iff_eq]

/-- No two functions of a catalogue have names that are the same in upper case. -/
def Distinct (catalogue : Catalogue) : Prop :=
  catalogue.functions.Pairwise fun f g => Text.toUpper f.name ≠ Text.toUpper g.name

theorem Distinct.register {catalogue : Catalogue} (h : catalogue.Distinct) (f : Function) :
    (catalogue.register f).Distinct := by
  refine List.pairwise_cons.mpr ⟨fun g hg => ?_, h.filter _⟩
  have hne := (List.mem_filter.mp hg).2
  exact fun heq => bne_iff_ne.mp hne heq.symm

theorem Distinct.foldl_register {catalogue : Catalogue} (h : catalogue.Distinct)
    (functions : List Function) : (functions.foldl Catalogue.register catalogue).Distinct := by
  induction functions generalizing catalogue with
  | nil => exact h
  | cons f functions ih => exact ih (h.register f)

theorem distinct_after (functions : List Function) : (after functions).Distinct := by
  rw [after_eq]
  exact Distinct.foldl_register .nil _

theorem find?_congr (catalogue : Catalogue) {name other : String}
    (h : Text.toUpper other = Text.toUpper name) :
    catalogue.find? other = catalogue.find? name := by
  rw [find?, find?, h]

/-- After any functions were registered, the last one is found whose name is the same in
upper case, the functions of every formula being the first ones; so names that are the
same in upper case find the same, there is only one function for all of them, and a
function that is registered under any other name changes nothing. A call of a function
runs its body on as many arguments as it takes, and on no others; these it refuses under
its own name, whatever the body is. -/
theorem find?_after (functions : List Function) (name : String) :
    (∀ f, (after functions).find? name = some f ↔
      ∃ before later, builtInFunctions ++ functions = before ++ f :: later ∧
        Text.toUpper f.name = Text.toUpper name ∧
        ∀ g ∈ later, Text.toUpper g.name ≠ Text.toUpper name) ∧
    ((after functions).find? name = none ↔
      ∀ f ∈ builtInFunctions ++ functions, Text.toUpper f.name ≠ Text.toUpper name) ∧
    (∀ other, Text.toUpper other = Text.toUpper name →
      (after functions).find? other = (after functions).find? name) ∧
    (after functions).Distinct ∧
    (∀ f, Text.toUpper f.name ≠ Text.toUpper name →
      (after (functions ++ [f])).find? name = (after functions).find? name) ∧
    ∀ (f : Function) (arguments : List Value),
      (f.Runs arguments ↔
        f.minimum ≤ arguments.length ∧ ∀ most, f.maximum = some most →
        arguments.length ≤ most) ∧
      (f.Runs arguments → f.call arguments = f.body arguments) ∧
      (¬ f.Runs arguments → ∀ body,
        { f with body := body }.call arguments =
          .error (.invalidArgument (Text.toLower f.name))) := by
  refine ⟨fun f => ?_, ?_, fun other hother => find?_congr _ hother, distinct_after functions,
    fun f hf => ?_, fun f arguments => ?_⟩
  · rw [after_eq]
    exact find?_foldl_register_eq_some_iff
  · rw [after_eq]
    exact find?_foldl_register_eq_none_iff
  · rw [after, List.foldl_append, List.foldl_cons, List.foldl_nil, find?_register,
      if_neg hf, after]
  · exact ⟨Function.runs_iff, fun h => h f.body, Function.call_of_not_runs⟩

/-- `ſum` is registered in place of `SUM`, and `ß` under the name `SS`. -/
theorem find?_after_longS :
    let longS : Function := ⟨"ſum", 1, some 1, sum⟩
    let sharpS : Function := ⟨"ß", 0, none, average⟩
    (after [longS, sharpS]).find? "Sum" = some longS ∧
    (after [longS, sharpS]).find? "sS" = some sharpS ∧
      longS.call [] = .error (.invalidArgument "ſum") := by
  intro longS sharpS
  have hsum := (find?_after [longS, sharpS] "Sum").1 longS
  have hss := (find?_after [longS, sharpS] "sS").1 sharpS
  obtain ⟨-, -, -, -, -, hcall⟩ := find?_after [longS, sharpS] "Sum"
  obtain ⟨hruns, -, hrefused⟩ := hcall longS []
  refine ⟨hsum.mpr ⟨builtInFunctions, [sharpS], rfl, by decide, by decide⟩,
    hss.mpr ⟨builtInFunctions ++ [longS], [], rfl, by decide, nofun⟩, ?_⟩
  have hnot : ¬ longS.Runs [] := fun h => by
    have := (hruns.mp h).1
    contradiction
  have hlower : Text.toLower "ſum" = "ſum" := by decide
  exact (hrefused hnot sum).trans (by rw [hlower])

end Catalogue

end Formula

end Spreadsheet
