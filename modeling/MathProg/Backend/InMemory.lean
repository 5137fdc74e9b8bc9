import MathProg.Backend.Handle
import MathProg.ConstraintSet.Layout
import MathProg.Function.Entrywise
import MathProg.Function.Evaluation
import MathProg.Representation.Basic

/-!
# The in-memory backend

A backend that keeps what is loaded and reports what its caller injects. A solve does nothing but
replay the injections that the backend was made with. Two values are computed when nothing was
injected for them: the objective from the primal values, and the dual objective from the dual values
and the constants of the constraints.
-/

namespace MathProg

/-- A dual value as it is kept: a written number, or the coefficients of a vector. -/
inductive DualValue (N K : Type) where
  | scalar (n : N)
  | vector (xs : List K)

/-- One piece of solution data, or a failure. Statuses and statistics are given by their names. -/
inductive Injection (N : Type) where
  | termination (name : String)
  | raw (text : Option String)
  | resultCount (count : Int)
  | primalStatus (name : String) (result : Int)
  | dualStatus (name : String) (result : Int)
  | objectiveValue (value : N) (result : Int)
  | dualObjectiveValue (value : N) (result : Int)
  | statistic (name : String) (value : N)
  | primal (v : Int) (value : N) (result : Int)
  | dual (handle : ConstraintHandle) (value : Shaped N) (result : Int)
  | failure (text : String)

namespace InMemory

structure Settings (N : Type) where
  supportsNonlinear : Bool
  /-- The supported families of constraints; all without a list. -/
  supportedConstraints : Option (List (FunctionFamily × SetFamily))
  supportedObjectives : List FunctionFamily
  evaluatesObjective : Bool
  evaluatesDualObjective : Bool
  onSolve : List (Injection N)

def Settings.standard {N : Type} : Settings N :=
  ⟨false, none, [.affine, .quadratic], true, true, []⟩

/-- The problem that has been loaded. -/
structure Problem (N K : Type) where
  variableNames : List (Option String)
  constraints : List (ConstraintHandle × Entry N K)
  sense : Sense
  objective : Function K
  nextConstraint : Nat

/-- The solution data that has been injected, the latest first. -/
structure Solution (N K : Type) where
  termination : TerminationStatus
  raw : Option String
  resultCount : Int
  primalStatus : List (Int × ResultStatus)
  dualStatus : List (Int × ResultStatus)
  objectiveValue : List (Int × K)
  dualObjectiveValue : List (Int × K)
  primal : List ((Int × Int) × K)
  dual : List ((Int × ConstraintHandle) × DualValue N K)
  statistics : List (Statistic × N)

variable {N K : Type}

def Problem.empty [Zero K] : Problem N K :=
  ⟨[], [], .feasibility, .affine .zero, 1⟩

def Solution.empty : Solution N K :=
  ⟨.optimizeNotCalled, none, 0, [], [], [], [], [], [], []⟩

end InMemory

structure InMemory (N K : Type) where
  settings : InMemory.Settings N
  solveCount : Nat
  /-- How often it was emptied; the handles given before the last time are void. -/
  clearCount : Nat
  problem : InMemory.Problem N K
  solution : InMemory.Solution N K

namespace InMemory

variable {N K : Type}

def new [Zero K] (settings : Settings N) : InMemory N K :=
  ⟨settings, 0, 0, .empty, .empty⟩

/-! ## Capabilities -/

def supportsConstraint (b : InMemory N K) (function : FunctionFamily) (set : SetFamily) : Bool :=
  b.settings.supportedConstraints.all (fun families => families.contains (function, set))

def supportsObjective (b : InMemory N K) (function : FunctionFamily) : Bool :=
  b.settings.supportedObjectives.contains function

/-! ## Writing the problem -/

/-- Drops the problem and the solution. -/
def clear [Zero K] (b : InMemory N K) : InMemory N K :=
  { b with clearCount := b.clearCount + 1, problem := .empty, solution := .empty }

def isEmpty (b : InMemory N K) : Bool :=
  b.problem.variableNames.isEmpty && b.problem.constraints.isEmpty

def addVariable (b : InMemory N K) (name : Option String) : Nat × InMemory N K :=
  let names := b.problem.variableNames ++ [name]
  (names.length, { b with problem := { b.problem with variableNames := names } })

def addConstraint (b : InMemory N K) (e : Entry N K) : ConstraintHandle × InMemory N K :=
  let p := b.problem
  let handle : ConstraintHandle := ⟨p.nextConstraint, e.function.family, e.set.family⟩
  (handle, { b with problem :=
    { p with
      constraints := p.constraints ++ [(handle, e)]
      nextConstraint := p.nextConstraint + 1 } })

def setObjective (b : InMemory N K) (sense : Sense) (objective : Function K) : InMemory N K :=
  { b with problem := { b.problem with sense, objective } }

/-! ## Injecting a solution -/

def holds (b : InMemory N K) (handle : ConstraintHandle) : Bool :=
  b.problem.constraints.any (fun (h, _) => h == handle)

section

variable [Numeral N K]

def coefficient (n : N) : Except BackendError K :=
  (Numeral.toCoefficient n).mapError .number

def dualValue : Shaped N → Except BackendError (DualValue N K)
  | .scalar n => .ok (.scalar n)
  | .vector ns => do return .vector (← ns.mapM coefficient)
  | _ => .error .wrongShape

def resultStatus (name : String) : Except BackendError ResultStatus :=
  match ResultStatus.ofName? name with
  | some status => .ok status
  | none => .error (.unknownResultStatus name)

/-- Adds one piece of solution data. -/
def inject (b : InMemory N K) (i : Injection N) : Except BackendError (InMemory N K) := do
  let s := b.solution
  let solution ← match i with
    | .termination name =>
      match TerminationStatus.ofName? name with
      | some status => pure { s with termination := status }
      | none => .error (.unknownTermination name)
    | .raw text => pure { s with raw := text }
    | .resultCount count => pure { s with resultCount := count }
    | .primalStatus name r => do
      pure { s with primalStatus := (r, ← resultStatus name) :: s.primalStatus }
    | .dualStatus name r => do
      pure { s with dualStatus := (r, ← resultStatus name) :: s.dualStatus }
    | .objectiveValue n r => do
      pure { s with objectiveValue := (r, ← coefficient n) :: s.objectiveValue }
    | .dualObjectiveValue n r => do
      pure { s with dualObjectiveValue := (r, ← coefficient n) :: s.dualObjectiveValue }
    | .statistic name n =>
      match Statistic.ofName? name with
      | some statistic => pure { s with statistics := (statistic, n) :: s.statistics }
      | none => .error (.unknownStatistic name)
    | .primal v n r => do pure { s with primal := ((r, v), ← coefficient n) :: s.primal }
    | .dual handle value r =>
      if b.holds handle then do
        pure { s with dual := ((r, handle), ← dualValue value) :: s.dual }
      else .error (.unknownConstraint handle)
    | .failure text => .error (.failed text)
  return { b with solution }

/-- Adds pieces one after the other up to the first that fails. -/
def injectAll (b : InMemory N K) : List (Injection N) → InMemory N K × Except BackendError Unit
  | [] => (b, .ok ())
  | i :: rest =>
    match b.inject i with
    | .ok b => b.injectAll rest
    | .error e => (b, .error e)

/-- Counts the solve and replays the injections of the settings. -/
def solve (b : InMemory N K) : InMemory N K × Except BackendError Unit :=
  { b with solveCount := b.solveCount + 1 }.injectAll b.settings.onSolve

end

/-! ## Reading the solution -/

def primalStatus (b : InMemory N K) (result : Int) : ResultStatus :=
  (b.solution.primalStatus.lookup result).getD .noSolution

def dualStatus (b : InMemory N K) (result : Int) : ResultStatus :=
  (b.solution.dualStatus.lookup result).getD .noSolution

def variablePrimal (b : InMemory N K) (v : Int) (result : Int) : Option K :=
  b.solution.primal.lookup (result, v)

def constraintDual (b : InMemory N K) (handle : ConstraintHandle) (result : Int) :
    Option (DualValue N K) :=
  b.solution.dual.lookup (result, handle)

def statistic (b : InMemory N K) (s : Statistic) : Option N :=
  b.solution.statistics.lookup s

section

variable [Zero K] [Add K] [Mul K] [OperatorMeaning K]

/-- Functions at the primal values of a result. -/
def interpretation (b : InMemory N K) (result : Int) : Interpretation (Except BackendError) K where
  value v :=
    match b.variablePrimal v result with
    | some x => .ok x
    | none => .error .unknown
  operator head args := (Operator.applyHead head args).mapError .operator

/-- The injected value of the objective, or else its value at the primal values, if it is to be
computed and all of them are there. -/
def objectiveValue (b : InMemory N K) (result : Int) : Except BackendError (Option K) :=
  match b.solution.objectiveValue.lookup result with
  | some x => .ok (some x)
  | none =>
    let count := b.problem.variableNames.length
    let known := (List.range count).all (fun i => (b.variablePrimal (i + 1) result).isSome)
    if !b.settings.evaluatesObjective || !known then .ok none
    else
      match b.problem.objective with
      | .number _ => .error .wrongFunction
      | f => do
        match ← f.evaluate (b.interpretation result) with
        | .scalar x => return some x
        | _ => .error .wrongShape

end

section

variable [Zero K] [One K] [Add K] [Sub K] [Mul K] [Neg K] [LT K] [DecidableLT K] [Numeral N K]

/-- The bound that a dual value of a scalar set belongs to. -/
def boundOf (s : ConstraintSet N) (dual : K) : N :=
  match s with
  | .lessThan upper => upper
  | .greaterThan lower => lower
  | .equalTo value => value
  | .interval lower upper => if 0 < dual then lower else upper
  | _ => Numeral.ofCoefficient (0 : K)

/-- The sum of the products of two lists. -/
def dot (xs ys : List K) : K :=
  (xs.zip ys).foldl (fun sum (x, y) => sum + x * y) 0

/-- The inner product of two triangles of symmetric matrices, whose entries off the diagonal count
twice. -/
def triangleDot (side : Nat) (xs ys : List K) : Except BackendError K :=
  (MatrixLayout.triangle.positions side).zipIdx.foldlM (fun sum ((i, j), k) =>
    match xs[k]?, ys[k]? with
    | some x, some y => .ok (sum + (if i = j then 1 else 1 + 1) * x * y)
    | _, _ => .error .tooShort) 0

/-- The inner product of two members of a set. -/
def setDot (s : ConstraintSet N) (xs ys : List K) : Except BackendError K :=
  match s with
  | .matrix .triangle side =>
    match side.bind Numeral.integer? with
    | some side => triangleDot side.toNat xs ys
    | none => .error .wrongShape
  | _ => if xs.length = ys.length then .ok (dot xs ys) else .error .lengthMismatch

/-- What a constraint with the given dual value adds to the dual objective. -/
def dualTerm (e : Entry N K) (dual : DualValue N K) (total : K) : Except BackendError K := do
  match e.set.kind with
  | .scalar =>
    let d : K ← match dual with
      | .scalar n => coefficient n
      | .vector _ => .error .wrongShape
    match e.function.constants? with
    | none => .error .wrongFunction
    | some [] => .error .tooShort
    | some (c :: _) =>
      let room : N ← (Numeral.sub (boundOf e.set d) (Numeral.ofCoefficient c)).mapError .number
      return total + d * (← coefficient room)
  | _ =>
    match e.function.constants?, dual with
    | none, _ => .error .wrongFunction
    | some _, .scalar _ => .error .wrongShape
    | some cs, .vector ds => return total - (← setDot e.set cs ds)

/-- The sum over the constraints of the dual value times what the set leaves to the constant;
nothing if a dual value is missing. Constraints of integrality have none. -/
def dualSum (b : InMemory N K) (result : Int) : Except BackendError (Option K) :=
  b.problem.constraints.foldlM (fun total (handle, e) =>
    match total with
    | none => .ok none
    | some total =>
      match e.set with
      | .integer => .ok (some total)
      | .zeroOne => .ok (some total)
      | _ =>
        match b.constraintDual handle result with
        | none => .ok none
        | some dual => do return some (← dualTerm e dual total)) (some 0)

/-- The injected value of the dual objective, or else the sum over the constraints with the constant
of the objective. The sum changes its sign for a maximum. -/
def dualObjectiveValue (b : InMemory N K) (result : Int) : Except BackendError (Option K) :=
  match b.solution.dualObjectiveValue.lookup result with
  | some x => .ok (some x)
  | none =>
    if !b.settings.evaluatesDualObjective then .ok none
    else do
      match ← b.dualSum result with
      | none => return none
      | some total =>
        let total := if b.problem.sense = .maximize then -total else total
        return some (total + b.problem.objective.constantPart)

end

/-! ## Inspecting the problem -/

section

variable [Zero K] [Add K] [BEq K]

/-- The function over positions, which must not use a variable that is not there. -/
def positioned (count : Nat) (f : Function K) : Except BackendError (Function K) :=
  match f with
  | .number _ => .error .wrongFunction
  | f =>
    if f.support.all (fun v => 1 ≤ v && v ≤ count) then .ok (f.mapVariables (· - 1))
    else .error .unknown

/-- What has been loaded, over positions of variables. -/
def representation (b : InMemory N K) : Except BackendError (Representation N K) := do
  let p := b.problem
  let count := p.variableNames.length
  let objective ← positioned count p.objective
  let constraints ← p.constraints.mapM (fun (_, e) => do
    return { e with function := ← positioned count e.function })
  return ⟨p.variableNames, p.sense, objective, constraints⟩

end

end InMemory

end MathProg
