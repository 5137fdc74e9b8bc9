import MathProg.Backend.Status
import MathProg.Config.Data

/-!
# The scripted solver

A solver that reports what a script says. A script with a failure is a solver that breaks down.
-/

namespace MathProg

/-- The condition in which a solver stops. -/
inductive SolverCondition where
  | optimal
  | globallyOptimal
  | locallyOptimal
  | feasible
  | infeasible
  | unbounded
  | infeasibleOrUnbounded
  | maxIterations
  | maxTimeLimit
  | maxEvaluations
  | userInterrupt
  | invalidProblem
  | error
  | solverFailure
  | internalSolverError
  /-- A condition that says nothing more than that something went wrong. -/
  | other (name : String)
deriving DecidableEq, Repr

namespace SolverCondition

def name : SolverCondition → String
  | optimal => "optimal"
  | globallyOptimal => "globallyOptimal"
  | locallyOptimal => "locallyOptimal"
  | feasible => "feasible"
  | infeasible => "infeasible"
  | unbounded => "unbounded"
  | infeasibleOrUnbounded => "infeasibleOrUnbounded"
  | maxIterations => "maxIterations"
  | maxTimeLimit => "maxTimeLimit"
  | maxEvaluations => "maxEvaluations"
  | userInterrupt => "userInterrupt"
  | invalidProblem => "invalidProblem"
  | error => "error"
  | solverFailure => "solverFailure"
  | internalSolverError => "internalSolverError"
  | other name => name

def known : List SolverCondition :=
  [optimal, globallyOptimal, locallyOptimal, feasible, infeasible, unbounded,
    infeasibleOrUnbounded, maxIterations, maxTimeLimit, maxEvaluations, userInterrupt,
    invalidProblem, error, solverFailure, internalSolverError]

def ofName (name : String) : SolverCondition :=
  (known.find? (fun c => c.name == name)).getD (other name)

/-- How a solve has ended that stops in the condition. -/
def status : SolverCondition → TerminationStatus
  | optimal => .optimal
  | globallyOptimal => .optimal
  | locallyOptimal => .locallySolved
  | feasible => .otherLimit
  | infeasible => .infeasible
  | unbounded => .dualInfeasible
  | infeasibleOrUnbounded => .infeasibleOrUnbounded
  | maxIterations => .iterationLimit
  | maxTimeLimit => .timeLimit
  | maxEvaluations => .otherLimit
  | userInterrupt => .interrupted
  | invalidProblem => .invalidModel
  | error => .otherError
  | solverFailure => .otherError
  | internalSolverError => .otherError
  | other _ => .otherError

/-- Whether a point that is reported in the condition is worth keeping. -/
def isLoadable : SolverCondition → Bool
  | optimal => true
  | globallyOptimal => true
  | locallyOptimal => true
  | feasible => true
  | maxIterations => true
  | maxTimeLimit => true
  | _ => false

end SolverCondition

/-- A point with the dual values of the rows; what is not reported is `none`. -/
structure SolverPoint (N : Type) where
  values : List (Option N)
  duals : List (Option N)

structure SolverReport (N : Type) where
  condition : SolverCondition
  message : Option String
  lowerBound : Option N
  upperBound : Option N
  point : Option (SolverPoint N)

/-- What a solver is asked. -/
structure SolverCall where
  options : Table
  executable : Option String
  tee : Bool
  /-- Whether the solver is to load the solution by itself. -/
  loadsSolutions : Bool
  /-- Whether there is a place for dual values. -/
  keepsDuals : Bool

/-- A report, or the text of a failure. -/
inductive Script (N : Type) where
  | report (r : SolverReport N)
  | failure (text : String)

/-- A solver with its script and the last call that it has seen. -/
structure ScriptedSolver (N : Type) where
  script : Script N
  seen : Option SolverCall

namespace ScriptedSolver

variable {N : Type}

/-- A solver that finds everything optimal and reports no point. -/
def standard : ScriptedSolver N :=
  ⟨.report ⟨.optimal, none, none, none, none⟩, none⟩

/-- The name of the solver, and of the one that takes no executable. -/
def name (takesExecutable : Bool) : String :=
  if takesExecutable then "scripted" else "scripted_noexe"

/-- Whether a solver of the given name takes an executable; `none` if it is no scripted solver. -/
def takesExecutable? (solver : String) : Option Bool :=
  [true, false].find? (fun b => name b == solver)

end ScriptedSolver

end MathProg
