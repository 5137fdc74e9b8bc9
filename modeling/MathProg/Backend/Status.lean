/-!
# Statuses

How a solve ended, what a result is worth, and the statistics that a backend may report.
-/

namespace MathProg

/-- How a solve ended. -/
inductive TerminationStatus where
  | optimizeNotCalled
  | optimal
  | infeasible
  | dualInfeasible
  | locallySolved
  | locallyInfeasible
  | infeasibleOrUnbounded
  | almostOptimal
  | iterationLimit
  | timeLimit
  | nodeLimit
  | solutionLimit
  | otherLimit
  | interrupted
  | numericalError
  | invalidModel
  | otherError
deriving DecidableEq, Repr

/-- What the primal or dual side of a result is worth. -/
inductive ResultStatus where
  | noSolution
  | feasiblePoint
  | nearlyFeasiblePoint
  | infeasiblePoint
  | infeasibilityCertificate
  | nearlyInfeasibilityCertificate
  | unknownResult
  | otherResult
deriving DecidableEq, Repr

inductive Statistic where
  | simplexIterations
  | barrierIterations
  | nodeCount
  | relativeGap
  | solveTime
deriving DecidableEq, Repr

namespace TerminationStatus

def name : TerminationStatus → String
  | optimizeNotCalled => "OPTIMIZE_NOT_CALLED"
  | optimal => "OPTIMAL"
  | infeasible => "INFEASIBLE"
  | dualInfeasible => "DUAL_INFEASIBLE"
  | locallySolved => "LOCALLY_SOLVED"
  | locallyInfeasible => "LOCALLY_INFEASIBLE"
  | infeasibleOrUnbounded => "INFEASIBLE_OR_UNBOUNDED"
  | almostOptimal => "ALMOST_OPTIMAL"
  | iterationLimit => "ITERATION_LIMIT"
  | timeLimit => "TIME_LIMIT"
  | nodeLimit => "NODE_LIMIT"
  | solutionLimit => "SOLUTION_LIMIT"
  | otherLimit => "OTHER_LIMIT"
  | interrupted => "INTERRUPTED"
  | numericalError => "NUMERICAL_ERROR"
  | invalidModel => "INVALID_MODEL"
  | otherError => "OTHER_ERROR"

def all : List TerminationStatus :=
  [optimizeNotCalled, optimal, infeasible, dualInfeasible, locallySolved, locallyInfeasible,
    infeasibleOrUnbounded, almostOptimal, iterationLimit, timeLimit, nodeLimit, solutionLimit,
    otherLimit, interrupted, numericalError, invalidModel, otherError]

def ofName? (name : String) : Option TerminationStatus :=
  all.find? (fun s => s.name == name)

instance : ToString TerminationStatus := ⟨name⟩

end TerminationStatus

namespace ResultStatus

def name : ResultStatus → String
  | noSolution => "NO_SOLUTION"
  | feasiblePoint => "FEASIBLE_POINT"
  | nearlyFeasiblePoint => "NEARLY_FEASIBLE_POINT"
  | infeasiblePoint => "INFEASIBLE_POINT"
  | infeasibilityCertificate => "INFEASIBILITY_CERTIFICATE"
  | nearlyInfeasibilityCertificate => "NEARLY_INFEASIBILITY_CERTIFICATE"
  | unknownResult => "UNKNOWN_RESULT_STATUS"
  | otherResult => "OTHER_RESULT_STATUS"

def all : List ResultStatus :=
  [noSolution, feasiblePoint, nearlyFeasiblePoint, infeasiblePoint, infeasibilityCertificate,
    nearlyInfeasibilityCertificate, unknownResult, otherResult]

def ofName? (name : String) : Option ResultStatus :=
  all.find? (fun s => s.name == name)

instance : ToString ResultStatus := ⟨name⟩

end ResultStatus

namespace Statistic

def name : Statistic → String
  | simplexIterations => "simplex_iterations"
  | barrierIterations => "barrier_iterations"
  | nodeCount => "node_count"
  | relativeGap => "relative_gap"
  | solveTime => "solve_time"

def all : List Statistic :=
  [simplexIterations, barrierIterations, nodeCount, relativeGap, solveTime]

def ofName? (name : String) : Option Statistic :=
  all.find? (fun s => s.name == name)

/-- Whether the statistic is a count, which is reported as an integer. -/
def isCount : Statistic → Bool
  | simplexIterations => true
  | barrierIterations => true
  | nodeCount => true
  | _ => false

end Statistic

end MathProg
