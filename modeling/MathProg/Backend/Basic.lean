import MathProg.Backend.Algebraic
import MathProg.Backend.InMemory

/-!
# Backends

A backend is told a problem, solves it and is read. It is one of two kinds: the in-memory backend,
which reports what was injected, and the algebraic one, which calls a solver. What a write or a
solve did before it failed stays done, so both give back the backend beside their result.
-/

namespace MathProg

/-- A description of a backend that is still to be built. -/
inductive BackendSpec (N : Type) where
  | inMemory (settings : InMemory.Settings N)
  | algebraic (settings : Algebraic.Settings)

inductive Backend (N K V : Type) where
  | inMemory (b : InMemory N K)
  | algebraic (b : Algebraic N K V)

namespace Backend

variable {N K V : Type}

def ofSpec [Zero K] : BackendSpec N → Backend N K V
  | .inMemory settings => inMemory (.new settings)
  | .algebraic settings => algebraic (.new settings)

def name : Backend N K V → String
  | inMemory _ => "mock"
  | algebraic _ => "pyomo"

/-! ## Capabilities -/

def supportsNonlinear : Backend N K V → Bool
  | inMemory b => b.settings.supportsNonlinear
  | algebraic _ => true

def supportsConstraint (b : Backend N K V) (function : FunctionFamily) (set : SetFamily) : Bool :=
  match b with
  | inMemory b => b.supportsConstraint function set
  | algebraic _ => Algebraic.supportsConstraint function set

def supportsObjective (b : Backend N K V) (function : FunctionFamily) : Bool :=
  match b with
  | inMemory b => b.supportsObjective function
  | algebraic _ => Algebraic.supportsObjective function

/-- Whether the backend takes the function as an objective. -/
def acceptsObjective (b : Backend N K V) (f : Function K) : Bool :=
  match f with
  | .nonlinear _ _ => b.supportsNonlinear
  | f => b.supportsObjective f.family

/-! ## Writing the problem -/

def isEmpty : Backend N K V → Bool
  | inMemory b => b.isEmpty
  | algebraic b => b.isEmpty

def clear [Zero K] : Backend N K V → Backend N K V
  | inMemory b => inMemory b.clear
  | algebraic b => algebraic b.clear

/-- Adds a variable and gives its number. -/
def addVariable (b : Backend N K V) (name : Option String) : Nat × Backend N K V :=
  match b with
  | inMemory b =>
    let (v, b) := b.addVariable name
    (v, inMemory b)
  | algebraic b =>
    let (v, b) := b.addVariable name
    (v, algebraic b)

variable [Numeral N K] [CheckedArithmetic N K V]

def addConstraint [LT K] [DecidableLT K] (b : Backend N K V) (e : Entry N K) :
    Backend N K V × Except BackendError ConstraintHandle :=
  match b with
  | inMemory b =>
    let (handle, b) := b.addConstraint e
    (inMemory b, .ok handle)
  | algebraic b =>
    let (b, result) := b.addConstraint e
    (algebraic b, result)

def setObjective (b : Backend N K V) (sense : Sense) (f : Function K) :
    Backend N K V × Except BackendError Unit :=
  match b with
  | inMemory b => (inMemory (b.setObjective sense f), .ok ())
  | algebraic b =>
    let (b, result) := b.setObjective sense f
    (algebraic b, result)

/-! ## Solving -/

def solve [Zero K] [Add K] [Sub K] [Neg K] [Div K] [LT K] [DecidableLT K] [TextNumber K]
    (b : Backend N K V) (solver : ScriptedSolver N) :
    Backend N K V × ScriptedSolver N × Except BackendError Unit :=
  match b with
  | inMemory b =>
    let (b, result) := b.solve
    (inMemory b, solver, result)
  | algebraic b =>
    let (b, solver, result) := b.solve solver
    (algebraic b, solver, result)

/-! ## Reading the solution -/

def terminationStatus : Backend N K V → TerminationStatus
  | inMemory b => b.solution.termination
  | algebraic b => b.outcome.termination

def rawStatus : Backend N K V → Option String
  | inMemory b => b.solution.raw
  | algebraic b => b.outcome.raw

def resultCount : Backend N K V → Int
  | inMemory b => b.solution.resultCount
  | algebraic b => b.resultCount

def primalStatus (b : Backend N K V) (result : Int) : ResultStatus :=
  match b with
  | inMemory b => b.primalStatus result
  | algebraic b => b.primalStatus result

def dualStatus (b : Backend N K V) (result : Int) : ResultStatus :=
  match b with
  | inMemory b => b.dualStatus result
  | algebraic b => b.dualStatus result

/-- A statistic; the gap is all that a solver reports. -/
def statistic (b : Backend N K V) (s : Statistic) : Option N :=
  match b, s with
  | inMemory b, s => b.statistic s
  | algebraic b, .relativeGap => b.outcome.gap.map Numeral.ofCoefficient
  | algebraic _, _ => none

def variablePrimal (b : Backend N K V) (v : Int) (result : Int) :
    Except BackendError (Option K) :=
  match b with
  | inMemory b => .ok (b.variablePrimal v result)
  | algebraic b => b.variablePrimal v result

def constraintDual (b : Backend N K V) (handle : ConstraintHandle) (result : Int) :
    Except BackendError (Option (DualValue N K)) :=
  match b with
  | inMemory b => .ok (b.constraintDual handle result)
  | algebraic b => do
    let dual ← b.constraintDual handle result
    return dual.map (fun c => .scalar (Numeral.ofCoefficient c))

def objectiveValue [Zero K] [Add K] [Mul K] [OperatorMeaning K] (b : Backend N K V)
    (result : Int) : Except BackendError (Option K) :=
  match b with
  | inMemory b => b.objectiveValue result
  | algebraic b => b.objectiveValue result

def dualObjectiveValue [Zero K] [One K] [Add K] [Sub K] [Mul K] [Neg K] [LT K] [DecidableLT K]
    (b : Backend N K V) (result : Int) : Except BackendError (Option K) :=
  match b with
  | inMemory b => b.dualObjectiveValue result
  | algebraic _ => .ok none

end Backend

end MathProg
