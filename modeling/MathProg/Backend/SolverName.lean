import MathProg.Backend.ScriptedSolver

/-!
# Solvers by name

A solver is asked for by its name; what follows a colon names a second one for it to work through.
Beside the scripted solvers some programs are known by their names. As the library runs no program,
none of them is ever found, and a file that is given for one is of no use.
-/

namespace MathProg

/-- What the name of a solver stands for. -/
inductive SolverName where
  | scripted (takesExecutable : Bool)
  | program (name : String)
  | unknown (name : String) (inner : Option String)
deriving DecidableEq, Repr

namespace SolverName

/-- The programs that are known. -/
def programs : List String :=
  ["asl", "baron", "cbc", "conopt", "cplex", "glpk", "gurobi", "ipopt", "knitroampl", "path",
    "scip", "xpress"]

/-- The parts of a name before and behind its first colon. -/
def split (name : String) : String × Option String :=
  let chars := name.toList
  match chars.dropWhile (· ≠ ':') with
  | [] => (name, none)
  | _ :: rest => (String.ofList (chars.takeWhile (· ≠ ':')), some (String.ofList rest))

def ofText (text : String) : SolverName :=
  match ScriptedSolver.takesExecutable? text with
  | some takesExecutable => scripted takesExecutable
  | none =>
    let (name, inner) := split text
    if programs.contains name then program name else unknown name inner

end SolverName

/-- What is reported of a solver that is not known, with what it was asked to be. -/
def unknownSolverReport (name : String) (inner : Option String) (options : Table) : String :=
  let asked := (inner.map (fun inner => "\n\tsolver: " ++ inner)).getD ""
  let shown := (Data.map options).inner
  "Attempting to use an unavailable solver.\n\nThe SolverFactory was unable to create the solver \""
    ++ name ++ "\"\nand returned an UnknownSolver object.  This error is raised at the point\nwhere "
    ++ "the UnknownSolver object was used as if it were valid (by calling\nmethod \"solve\").\n\n"
    ++ "The original solver was created with the following parameters:\n\texecutable: " ++ name
    ++ asked ++ "\n\ttype: " ++ name ++ "\n\t_args: ()\n\toptions: " ++ shown

end MathProg
