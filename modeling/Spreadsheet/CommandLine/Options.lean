/-!
# Options

How the arguments of a command are told apart. An option has a long name after two
dashes and may have a letter after one; what is no option is an operand. Options and
operands may come in any order.

- `OptionRule`: an option that a command knows.
- `Arguments`: the operands and the options that were given.
- `Arguments.read?`: tells arguments apart; nothing if they break the rules of the command.
-/

namespace Spreadsheet

namespace CommandLine

/-- An option that a command knows. -/
structure OptionRule where
  /-- The name after two dashes. -/
  long : String
  /-- The letter after one dash, if there is one. -/
  short : Option Char
  /-- Does a value follow, in the same argument or as the next one? -/
  takesValue : Bool
  /-- May the option be given more than once? -/
  repeatable : Bool

/-- Arguments, told apart. -/
structure Arguments where
  /-- The arguments that are no options. -/
  operands : List String
  /-- The long names of the options that were given, each with its value. -/
  options : List (String × String)

namespace Arguments

/-- Is the argument an option, or the mark after which there are none? A dash
alone is neither. -/
def looksLikeOption (argument : String) : Bool :=
  match argument.toList with
  | '-' :: _ :: _ => true
  | _ => false

/-- The arguments that say what follows `more`, after one more operand. -/
def withOperand (operand : String) (more : Arguments) : Arguments :=
  { more with operands := operand :: more.operands }

/-- The arguments that say what follows `more`, after some more options. -/
def withOptions (options : List (String × String)) (more : Arguments) : Arguments :=
  { more with options := options ++ more.options }

/-- What one argument with options says. -/
inductive Piece where
  /-- The options, with their values. -/
  | whole (options : List (String × String))
  /-- The options before one whose value is the next argument. -/
  | awaits (options : List (String × String)) (name : String)

/-- An option by its long name, and perhaps its value after `=`. -/
def readLong? (rules : List OptionRule) (body : List Char) : Option Piece :=
  let name := String.ofList (body.takeWhile (· != '='))
  match rules.find? (·.long == name), body.dropWhile (· != '=') with
  | some rule, [] =>
    if rule.takesValue then some (.awaits [] name) else some (.whole [(name, "")])
  | some rule, _ :: value =>
    if rule.takesValue then some (.whole [(name, .ofList value)]) else none
  | none, _ => none

/-- Options by their letters. The rest of the argument after the letter of an option with a
value is that value, an `=` between them being left out. -/
def readShort? (rules : List OptionRule) : List Char → Option Piece
  | [] => some (.whole [])
  | c :: rest =>
    match rules.find? (·.short == some c) with
    | none => none
    | some rule =>
      if rule.takesValue then
        match rest with
        | [] => some (.awaits [] rule.long)
        | '=' :: value => some (.whole [(rule.long, .ofList value)])
        | value => some (.whole [(rule.long, .ofList value)])
      else
        (readShort? rules rest).map fun
          | .whole options => .whole ((rule.long, "") :: options)
          | .awaits options name => .awaits ((rule.long, "") :: options) name

/-- The options in an argument that looks like one. -/
def readPiece? (rules : List OptionRule) (argument : String) : Option Piece :=
  match argument.toList with
  | '-' :: '-' :: body => readLong? rules body
  | '-' :: body => readShort? rules body
  | _ => none

/-- Tells arguments apart, whatever the options are and however often they are given. -/
def split? (rules : List OptionRule) : List String → Option Arguments
  | [] => some ⟨[], []⟩
  | argument :: rest =>
    if argument = "--" then some ⟨rest, []⟩
    else if looksLikeOption argument then
      match readPiece? rules argument with
      | none => none
      | some (.whole options) => (split? rules rest).map (withOptions options)
      | some (.awaits options name) =>
        match rest with
        | [] => none
        | value :: more =>
          if looksLikeOption value then none
          else (split? rules more).map (withOptions (options ++ [(name, value)]))
    else (split? rules rest).map (withOperand argument)

/-- Tells arguments apart. Options that are not repeatable are given at most once. -/
def read? (rules : List OptionRule) (arguments : List String) : Option Arguments :=
  (split? rules arguments).filter fun args =>
    rules.all fun rule => rule.repeatable || args.options.countP (·.1 == rule.long) ≤ 1

/-- The values of an option. -/
def values (args : Arguments) (name : String) : List String :=
  (args.options.filter (·.1 == name)).map (·.2)

/-- Was the option given? -/
def has (args : Arguments) (name : String) : Bool := args.options.any (·.1 == name)

/-- The only operand, if there is just one. -/
def operand? (args : Arguments) : Option String :=
  match args.operands with
  | [operand] => some operand
  | _ => none

/-- The value of an option as `read` reads it, or the one given if the option is not there. -/
def value? {α : Type} (args : Arguments) (name : String) (read : String → Option α)
    (missing : α) : Option α :=
  match args.values name with
  | [] => some missing
  | value :: _ => read value

end Arguments

end CommandLine

end Spreadsheet
