import Spreadsheet.Proofs.Formula.References
import Spreadsheet.Proofs.Number.Counts

/-!
# Sums and averages

Functions read each argument as a number and add the numbers up from the left. Nothing but these
numbers and how many arguments there are makes a difference, so a sum is what the operator for
addition makes of its arguments, and an average is a sum that the operator for division divides.

- `Value.addend?`: what a value adds to a sum.
- `total_eq`: a total in terms of what the arguments add to it.
- `callFunction_of_sum`, `callFunction_of_average`: the two functions, however
  their names are written.
- `average_eq`: an average is a sum divided by the number of arguments.
- `callFunction_eq_of_addends`: nothing else of the arguments counts.
- `Tree.added`: trees added up from the left.
- `average_eq_quotient`: the two functions and the operators.
-/

namespace Spreadsheet

/-- What a value adds to a sum, if it reads as a number. -/
def Value.addend? : Value → Option Float
  | .empty => some 0
  | .number x => some x
  | .text s => (Numeral.ofChars? (Text.trim s.toList)).map Numeral.toFloat

namespace Formula

/-! ## Totals -/

theorem readArgument_eq (function : String) (v : Value) :
    readArgument function v = v.addend?.elim (.error (.invalidArgument function)) .ok := by
  cases v with
  | empty => rfl
  | number x => rfl
  | text s =>
    rw [readArgument, Value.addend?]
    cases (Numeral.ofChars? (Text.trim s.toList)).map Numeral.toFloat <;> rfl

/-- All arguments must read as numbers, and these are added up from the left. -/
theorem total_eq (function : String) (vs : List Value) :
    total function vs = (vs.mapM Value.addend?).elim (.error (.invalidArgument function))
      fun xs => .ok (xs.foldl (· + ·) 0) := by
  unfold total
  -- the induction is on the arguments, for whatever has been added before them
  generalize (0 : Float) = x
  induction vs generalizing x with
  | nil => rfl
  | cons v vs ih =>
    rw [List.foldlM_cons, List.mapM_cons, readArgument_eq]
    cases v.addend? with
    | none => rfl
    | some y =>
      show List.foldlM _ (x + y) vs = _
      rw [ih]
      cases vs.mapM Value.addend? <;> rfl

theorem mapM_addend?_number (xs : List Float) :
    (xs.map Value.number).mapM Value.addend? = some xs := by
  induction xs with
  | nil => rfl
  | cons x xs ih =>
    rw [List.map_cons, List.mapM_cons, ih]
    rfl

/-- The sum of numbers. -/
theorem sum_number (xs : List Float) :
    sum (xs.map Value.number) = .ok (.number (xs.foldl (· + ·) 0)) := by
  rw [sum, total_eq, mapM_addend?_number]
  rfl

/-! ## The functions by name -/

section

variable {name : String} (vs : List Value)

theorem callFunction_of_sum (h : Text.toUpper name = "SUM") :
    callFunction name vs = sum vs := by
  rw [callFunction, Catalogue.find?_builtIn, h, if_neg (by decide), if_pos rfl]
  rfl

theorem callFunction_of_average (h : Text.toUpper name = "AVERAGE") :
    callFunction name vs = average vs := by
  rw [callFunction, Catalogue.find?_builtIn, if_pos h]
  rfl

end

/-! ## Averages -/

/-- An argument that a sum cannot take is one that an average cannot take. All
other faults are the same. -/
def Fault.inAverage (e : Fault) : Fault :=
  if e = .invalidArgument "sum" then .invalidArgument "average" else e

theorem Operator.operate_divide (x y : Float) :
    Operator.divide.operate (.number x) (.number y) =
      if y == 0 then .error .divisionByZero else .ok (.number (x / y)) := by
  show (if Operator.divide = .divide ∧ (y == 0) = true then _ else _) = _
  by_cases hy : (y == 0) = true
  · rw [if_pos ⟨rfl, hy⟩, if_pos hy]
  · rw [if_neg fun h => hy h.2, if_neg hy]

/-- An average is a sum divided by the number of arguments. -/
theorem average_eq (vs : List Value) :
    average vs = (sum vs >>= fun x =>
      Operator.divide.operate x (.number (.ofNat vs.length))).mapError Fault.inAverage := by
  rw [average, sum, total_eq, total_eq]
  cases vs.mapM Value.addend? with
  | none => rfl
  | some xs =>
    show _ = Except.mapError Fault.inAverage
      (Operator.divide.operate (.number (xs.foldl (· + ·) 0)) (.number (.ofNat vs.length)))
    rw [Operator.operate_divide, ofNat_beq_zero]
    -- the count is zero exactly where there are no arguments
    cases vs <;> rfl

/-- All that functions read of their arguments is what these add to a sum. -/
theorem callFunction_eq_of_addends (name : String) {vs ws : List Value}
    (h : vs.map Value.addend? = ws.map Value.addend?) :
    callFunction name vs = callFunction name ws := by
  have hlength : vs.length = ws.length := by simpa using congrArg List.length h
  have hmapM (us : List Value) : us.mapM Value.addend? = (us.map Value.addend?).mapM id := by
    rw [List.mapM_map]
    rfl
  have hsum : sum vs = sum ws := by
    rw [sum, sum, total_eq, total_eq, hmapM, hmapM, h]
  have haverage : average vs = average ws := by
    rw [average_eq, average_eq, hsum, hlength]
  unfold callFunction
  cases hf : Catalogue.builtIn.find? name with
  | none => rfl
  | some f =>
    show (if f.takes vs.length then f.body vs else _) =
      (if f.takes ws.length then f.body ws else _)
    rcases Catalogue.body_of_find?_builtIn hf with hbody | hbody
    · rw [hbody, hlength, hsum]
    · rw [hbody, hlength, haverage]

/-! ## Calls and operators -/

open Formula.Tree

/-- Trees added up from the left, starting from zero. -/
def Tree.added (ts : List Tree) : Tree := ts.foldl (.operation .add) (.number 0)

section

variable {cells : Option Cells} {limit : Nat}

theorem length_of_evaluateAllWith {reference : String → Except Fault Value} {ts : List Tree}
    {vs : List Value} (h : evaluateAllWith reference ts = .ok vs) : vs.length = ts.length := by
  induction ts generalizing vs with
  | nil =>
    cases h
    rfl
  | cons t ts ih =>
    obtain ⟨v, -, h⟩ := bind_eq_ok_iff.mp h
    obtain ⟨ws, hws, h⟩ := bind_eq_ok_iff.mp h
    cases h
    exact congrArg (· + 1) (ih hws)

/-- Trees that are worth numbers are worth these together, and added to what is there already
they are worth the sum. -/
theorem exists_numbers {ts : List Tree}
    (h : ∀ t ∈ ts, ∃ x, t.evaluate cells limit = .ok (.number x)) :
    ∃ xs : List Float, evaluateAllWith (follow cells limit) ts = .ok (xs.map .number) ∧
      ∀ (u : Tree) (y : Float), u.evaluate cells limit = .ok (.number y) →
        (ts.foldl (.operation .add) u).evaluate cells limit =
          .ok (.number (xs.foldl (· + ·) y)) := by
  induction ts with
  | nil => exact ⟨[], rfl, fun u y hu => hu⟩
  | cons t ts ih =>
    obtain ⟨⟨x, hx⟩, hts⟩ := List.forall_mem_cons.mp h
    obtain ⟨xs, hxs, hadded⟩ := ih hts
    refine ⟨x :: xs, ?_, fun u y hu => ?_⟩
    · rw [Tree.evaluate] at hx
      rw [evaluateAllWith, hx, hxs]
      rfl
    · refine hadded (.operation .add u t) (y + x) ?_
      rw [Tree.evaluate] at hu hx ⊢
      rw [evaluateWith, hu, hx]
      rfl

end

/-- A call of `AVERAGE` is worth what the operator for division makes of the call of `SUM` and
the number of arguments. A fault of an argument is the fault of both, without arguments both
divide by zero, and an argument that does not read as a number is one of the function that is
called. If all arguments are numbers, the call of `SUM` is worth what the operator for
addition makes of them. -/
theorem average_eq_quotient {sumName averageName : String} (hsum : Text.toUpper sumName = "SUM")
    (haverage : Text.toUpper averageName = "AVERAGE") (cells : Option Cells) (limit : Nat)
    (args : List Tree) :
    let average := (Tree.call averageName args).evaluate cells limit
    let quotient :=
      (Tree.operation .divide (.call sumName args)
        (.number (.ofNat args.length))).evaluate cells limit
    (∀ e, evaluateAllWith (follow cells limit) args = .error e →
      average = .error e ∧ quotient = .error e) ∧
    (∀ vs, evaluateAllWith (follow cells limit) args = .ok vs →
      average = quotient.mapError Fault.inAverage) ∧
    (args = [] → average = .error .divisionByZero ∧ quotient = .error .divisionByZero) ∧
    ((∀ t ∈ args, ∃ x, t.evaluate cells limit = .ok (.number x)) →
      (Tree.call sumName args).evaluate cells limit =
        (Tree.added args).evaluate cells limit) := by
  intro average quotient
  -- both calls begin with the values of the arguments
  have hcallAverage : average = evaluateAllWith (follow cells limit) args >>= Formula.average :=
    congrArg (evaluateAllWith (follow cells limit) args >>= ·)
      (funext (callFunction_of_average · haverage))
  have hcallSum : (Tree.call sumName args).evaluate cells limit =
      evaluateAllWith (follow cells limit) args >>= sum :=
    congrArg (evaluateAllWith (follow cells limit) args >>= ·)
      (funext (callFunction_of_sum · hsum))
  have hquotient : quotient = (evaluateAllWith (follow cells limit) args >>= sum) >>=
      fun x => Operator.divide.operate x (.number (.ofNat args.length)) := by
    rw [← hcallSum]
    rfl
  refine ⟨fun e h => ?_, fun vs h => ?_, fun h => ?_, fun h => ?_⟩
  · rw [hcallAverage, hquotient, h]
    exact ⟨rfl, rfl⟩
  · rw [hcallAverage, hquotient, h, ← length_of_evaluateAllWith h]
    exact average_eq vs
  · subst h
    rw [hcallAverage, hquotient]
    exact ⟨rfl, rfl⟩
  · obtain ⟨xs, hxs, hadded⟩ := exists_numbers h
    rw [hcallSum, hxs, Tree.added, hadded (.number 0) 0 rfl]
    exact sum_number xs

theorem average_eq_quotient_of_two :
    Text.toUpper "Sum" = "SUM" ∧ Text.toUpper "average" = "AVERAGE" ∧
      (Tree.call "average" [.number 1, .text "two"]).evaluate none 0 =
        ((Tree.operation .divide (.call "Sum" [.number 1, .text "two"])
          (.number (.ofNat 2))).evaluate none 0).mapError
          Fault.inAverage ∧
      (Tree.call "Sum" [.number 1, .number 2]).evaluate none 0 =
        (Tree.added [.number 1, .number 2]).evaluate none 0 := by
  have hsum : Text.toUpper "Sum" = "SUM" := by decide
  have haverage : Text.toUpper "average" = "AVERAGE" := by decide
  have hnumbers : ∀ t ∈ [Tree.number 1, .number 2], ∃ x, t.evaluate none 0 = .ok (.number x) :=
    List.forall_mem_cons.mpr ⟨⟨1, rfl⟩, List.forall_mem_singleton.mpr ⟨2, rfl⟩⟩
  refine ⟨hsum, haverage, ?_, ?_⟩
  · exact (average_eq_quotient hsum haverage none 0 [.number 1, .text "two"]).2.1 _ rfl
  · exact (average_eq_quotient hsum haverage none 0 [.number 1, .number 2]).2.2.2 hnumbers

end Formula

end Spreadsheet
