import MathProg.CommandLine

/-!
# The program

Solves the small linear program with the backend that a configuration file names.
-/

namespace MathProg.CommandLine

/-- The content of a file, if there is one. -/
def contentOf (path : String) : IO (Option String) := do
  try
    return some (← IO.FS.readFile path)
  catch
    | .noFileOrDirectory _ _ _ => return none
    | e => throw e

def outcome (arguments : List String) : IO Outcome := do
  match command arguments with
  | .ok .help => return ⟨0, help, []⟩
  | .ok (.solve path) => return solve path (← contentOf path)
  | .error e => return refuse e

end MathProg.CommandLine

def main (arguments : List String) : IO UInt32 := do
  let result ← MathProg.CommandLine.outcome arguments
  result.output.forM IO.println
  result.errors.forM IO.eprintln
  return result.code
