import Spreadsheet.Formula.Fault

/-!
# Wordings of faults

Each kind of fault has words of its own, with which its message starts and the
messages of no other kind do.

- `Fault.words`, `Fault.details`: the two parts of a message.
- `Fault.eq_of_message`: the message of a fault of reading tells which fault it is.
-/

namespace Spreadsheet

namespace Formula

namespace Fault

/-- What the wording of a fault says of its kind. -/
def words : Fault → String
  | unknownCharacter _ => "Unknown character: "
  | unterminatedText => "Unterminated string"
  | unexpectedToken _ => "Unexpected token: "
  | unclosedGroup => "Expected ')' to close expression"
  | missingArguments => "Expected '(' after function name"
  | unclosedArguments => "Expected ')' after function arguments"
  | invalidNumber _ => "Invalid number: "
  | tooDeep => "Expression nested deeper than "
  | invalidOperation => "Invalid operation"
  | divisionByZero => "Division by zero"
  | unsupportedOperator _ => "Unsupported operator"
  | unknownFunction _ => "Function not implemented"
  | invalidArgument _ => "Invalid argument: "
  | noCells => "Context or getCell method not provided"
  | chainTooLong => "Reference cycle or depth exceeded"
  | invalidReference _ => "Invalid reference: "

/-- What the wording of a fault says besides. -/
def details : Fault → String
  | unknownCharacter c => c.toString
  | unexpectedToken text | invalidNumber text | invalidArgument text | invalidReference text =>
    text
  | tooDeep => "256 levels"
  | _ => ""

theorem message_eq (e : Fault) : e.message = e.words ++ e.details := by
  cases e with
  | unknownCharacter | unexpectedToken | invalidNumber | invalidArgument | invalidReference =>
    rfl
  | tooDeep => rfl
  | _ => exact (String.append_empty).symm

theorem length_words (e : Fault) : 14 ≤ e.words.toList.length := by
  cases e <;> simp only [words] <;> decide

theorem take_message (e : Fault) : e.message.toList.take 14 = e.words.toList.take 14 := by
  rw [message_eq, String.toList_append, List.take_append_of_le_length e.length_words]

/-- Faults with the same message have words that start with the same fourteen characters. -/
theorem take_words {d e : Fault} (h : d.message = e.message) :
    d.words.toList.take 14 = e.words.toList.take 14 := by
  rw [← take_message, ← take_message, h]

/-- The message of a fault of reading tells which fault it is. -/
theorem eq_of_message {d e : Fault} (hd : d.stage ≠ .evaluate) (h : d.message = e.message) :
    d = e := by
  have htake := take_words h
  have hdetails (hwords : d.words = e.words) : d.details = e.details := by
    rw [message_eq, message_eq, hwords] at h
    exact (String.append_right_inj _).mp h
  cases d with
  | unknownCharacter c =>
    cases e with
    | unknownCharacter c' =>
      have hchar : c.toString.toList = c'.toString.toList := by
        rw [show c.toString = c'.toString from hdetails rfl]
      simp only [Char.toString, String.toList_singleton, List.cons.injEq, and_true] at hchar
      exact congrArg unknownCharacter hchar
    | _ => exact absurd htake (by simp only [words]; decide)
  | unexpectedToken text =>
    cases e with
    | unexpectedToken text' => exact congrArg unexpectedToken (hdetails rfl)
    | _ => exact absurd htake (by simp only [words]; decide)
  | invalidNumber text =>
    cases e with
    | invalidNumber text' => exact congrArg invalidNumber (hdetails rfl)
    | _ => exact absurd htake (by simp only [words]; decide)
  | unterminatedText | unclosedGroup | missingArguments | unclosedArguments | tooDeep =>
    cases e <;> first | rfl | exact absurd htake (by simp only [words]; decide)
  | _ => exact absurd rfl hd

end Fault

end Formula

end Spreadsheet
