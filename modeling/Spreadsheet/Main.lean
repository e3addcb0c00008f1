import Spreadsheet.CommandLine.Outcome

/-!
# The program

Reads what a command can read, carries it out, and writes what it writes.
-/

namespace Spreadsheet

namespace CommandLine

/-- Reads a file, or says why it cannot be read. -/
def readScript (name : String) : IO (Except String String) := do
  try
    return .ok (← IO.FS.readFile name)
  catch
    | .noFileOrDirectory .. => return .error noSuchFile
    | error => return .error error.toString

/-- The texts that the arguments make the program read. -/
def readSurroundings (arguments : List String) : IO Surroundings := do
  match Command.read? arguments with
  | some (.run "-" ..) => return ⟨← (← IO.getStdin).readToEnd, fun _ => .error noSuchFile⟩
  | some (.run script ..) =>
    let text ← readScript script
    return ⟨"", fun _ => text⟩
  | _ => return ⟨"", fun _ => .error noSuchFile⟩

end CommandLine

end Spreadsheet

/-- Carries out the command that the arguments ask for. -/
def main (arguments : List String) : IO UInt32 := do
  let surroundings ← Spreadsheet.CommandLine.readSurroundings arguments
  let result := Spreadsheet.CommandLine.outcome surroundings arguments
  IO.print result.stdout
  IO.eprint result.stderr
  return UInt32.ofNat result.code
