import MathProg.Backend.Handle
import MathProg.Backend.Node
import MathProg.Backend.ScriptedSolver
import MathProg.Backend.SolverName
import MathProg.Representation.Basic

/-!
# The algebraic backend

A backend that builds an algebraic model: variables with domains, rows with bounds, and an
objective, all over expression nodes. Integrality becomes the domain of a variable; every other
constraint becomes a row. A solver is then called, whose report is read into the variables and the
dual values. Cones have no rows.
-/

namespace MathProg

inductive VariableDomain where
  | reals
  | integers
  | binary
deriving DecidableEq, Repr

def VariableDomain.name : VariableDomain → String
  | reals => "Reals"
  | integers => "Integers"
  | binary => "Binary"

instance : ToString VariableDomain := ⟨VariableDomain.name⟩

namespace Algebraic

structure Settings where
  solver : String
  executable : Option String
  options : Table
  tee : Bool

structure Variable (N : Type) where
  name : Option String
  domain : VariableDomain
  value : Option N

/-- A body between bounds. -/
structure Row (N V : Type) where
  lower : Option N
  body : Node V
  upper : Option N

/-- The algebraic model. A constraint has the place of its row, or none if it is a domain. -/
structure Problem (N V : Type) where
  vars : List (Variable N)
  rows : List (Row N V)
  constraints : List (ConstraintHandle × Option Nat)
  nextConstraint : Nat
  maximizes : Bool
  objective : Option (Node V)

/-- What is known of the last solve. -/
structure Outcome (K : Type) where
  termination : TerminationStatus
  raw : Option String
  isLoaded : Bool
  gap : Option K

def Problem.empty {N V : Type} : Problem N V :=
  ⟨[], [], [], 1, false, none⟩

def Outcome.empty {K : Type} : Outcome K :=
  ⟨.optimizeNotCalled, none, false, none⟩

end Algebraic

/-- The dual values are kept by rows, once there is a place for them. -/
structure Algebraic (N K V : Type) where
  settings : Algebraic.Settings
  problem : Algebraic.Problem N V
  duals : Option (List (Nat × N))
  outcome : Algebraic.Outcome K

namespace Algebraic

variable {N K V : Type}

def new (settings : Settings) : Algebraic N K V :=
  ⟨settings, .empty, none, .empty⟩

/-! ## Capabilities -/

def scalarFamilies : List FunctionFamily :=
  [.var, .affine, .quadratic]

def boundFamilies : List SetFamily :=
  [.lessThan, .greaterThan, .equalTo, .interval]

/-- Integrality is for variables alone; scalar functions may have bounds. -/
def supportsConstraint (function : FunctionFamily) (set : SetFamily) : Bool :=
  match set with
  | .integer => function == .var
  | .zeroOne => function == .var
  | set => scalarFamilies.contains function && boundFamilies.contains set

def supportsObjective (function : FunctionFamily) : Bool :=
  function == .affine || function == .quadratic

/-! ## Building nodes -/

def ofArithmetic : ArithmeticError → BackendError
  | .divisionByZero => .divisionByZero
  | .overflow => .overflow
  | .complexOperand => .notReal
  | .domain => .noValue

section

variable [CheckedArithmetic N K V]

/-- A node for the variable with a number, which must be there. -/
def Problem.variableNode (p : Problem N V) (v : Int) : Except BackendError (Node V) :=
  if 1 ≤ v ∧ v ≤ p.vars.length then .ok (.var v.toNat) else .error .unknown

def fromCoefficient (c : K) : Node V :=
  .constant (CheckedArithmetic.ofCoefficient N c)

/-- The sum of terms. -/
def Problem.termsNode (p : Problem N V) (terms : List (Int × K)) :
    Except BackendError (Node V) := do
  let nodes ← terms.mapM (fun (v, c) => do
    let x ← p.variableNode v
    (Node.mul N K (fromCoefficient (N := N) c) x).mapError ofArithmetic)
  (Node.addAll N K nodes).mapError ofArithmetic

/-- The sum of products of two variables. -/
def Problem.pairsNode (p : Problem N V) (pairs : List (VariablePair × K)) :
    Except BackendError (Node V) := do
  let nodes ← pairs.mapM (fun (q, c) => do
    let x ← p.variableNode q.first
    let scaled ← (Node.mul N K (fromCoefficient (N := N) c) x).mapError ofArithmetic
    let y ← p.variableNode q.second
    (Node.mul N K scaled y).mapError ofArithmetic)
  (Node.addAll N K nodes).mapError ofArithmetic

/-- The node of an operator on nodes. -/
def operatorNode (op : Operator) (args : List (Node V)) : Except BackendError (Node V) :=
  match op, args with
  | .sum, args => (Node.addAll N K args).mapError ofArithmetic
  | .product, args => (Node.mulAll N K args).mapError ofArithmetic
  | .minus, [a] => (Node.neg N K a).mapError ofArithmetic
  | .minus, [a, b] => (Node.sub N K a b).mapError ofArithmetic
  | .quotient, [a, b] => (Node.div N K a b).mapError ofArithmetic
  | .power, [a, b] => (Node.pow N K a b).mapError ofArithmetic
  | .minus, _ => .error (.operator .arity)
  | .quotient, _ => .error (.operator .arity)
  | .power, _ => .error (.operator .arity)
  | op, [a] => (Node.apply N K op a).mapError ofArithmetic
  | _, _ => .error (.operator .arity)

mutual

/-- The node of a scalar function. -/
def Problem.node (p : Problem N V) : Function K → Except BackendError (Node V)
  | .number c => .ok (fromCoefficient (N := N) c)
  | .var v => p.variableNode v
  | .affine f => do
    let terms ← p.termsNode f.terms
    (Node.add N K terms (fromCoefficient (N := N) f.constant)).mapError ofArithmetic
  | .quadratic f => do
    let pairs ← p.pairsNode f.pairs
    let terms ← p.termsNode f.terms
    let sum ← (Node.add N K pairs terms).mapError ofArithmetic
    (Node.add N K sum (fromCoefficient (N := N) f.constant)).mapError ofArithmetic
  | .nonlinear head args =>
    match Operator.ofHead? head with
    | none => .error (.operator .unknownHead)
    | some op => do operatorNode (N := N) (K := K) op (← p.nodes args)
  | .vars _ => .error (.inexpressibleFunction .vars)
  | .rows _ => .error (.inexpressibleFunction .rows)

def Problem.nodes (p : Problem N V) : List (Function K) → Except BackendError (List (Node V))
  | [] => .ok []
  | f :: fs => do
    let first ← p.node f
    let others ← p.nodes fs
    return first :: others

end

end

/-! ## Writing the problem -/

/-- Drops the problem, the dual values and what is known of the last solve. -/
def clear (b : Algebraic N K V) : Algebraic N K V :=
  new b.settings

def isEmpty (b : Algebraic N K V) : Bool :=
  b.problem.vars.isEmpty && b.problem.constraints.isEmpty

def addVariable (b : Algebraic N K V) (name : Option String) : Nat × Algebraic N K V :=
  let vars := b.problem.vars ++ [⟨name, .reals, none⟩]
  (vars.length, { b with problem := { b.problem with vars } })

section

variable [Numeral N K] [LT K] [DecidableLT K] [CheckedArithmetic N K V]

/-- The bounds that a set puts on a row. -/
def boundsOf : ConstraintSet N → Except BackendError (Option N × Option N)
  | .lessThan upper => .ok (none, some upper)
  | .greaterThan lower => .ok (some lower, none)
  | .equalTo value => .ok (some value, some value)
  | .interval lower upper =>
    if Numeral.le lower upper then .ok (some lower, some upper) else .error .invalidConstraint
  | s => .error (.inexpressibleSet s.family)

/-- Whether a set bounds a body on one side only. -/
def isOneSided : ConstraintSet N → Bool
  | .lessThan _ => true
  | .greaterThan _ => true
  | _ => false

/-- A body must not be a plain number. One that is not real does not even compare with a bound. -/
def checkBody (body : Node V) (s : ConstraintSet N) : Except BackendError Unit :=
  if body.isPlain then
    if isOneSided s && !body.isReal N K then .error .notReal else .error .invalidConstraint
  else .ok ()

/-- The row of a constraint. -/
def Problem.row (p : Problem N V) (f : Function K) (s : ConstraintSet N) :
    Except BackendError (Row N V) := do
  let body ← p.node f
  let (lower, upper) ← boundsOf s
  checkBody (K := K) body s
  return ⟨lower, body, upper⟩

/-- The variable whose domain a constraint of integrality sets. -/
def Problem.domainVariable (p : Problem N V) (f : Function K) : Except BackendError Nat :=
  match f with
  | .var v => if 1 ≤ v ∧ v ≤ p.vars.length then .ok v.toNat else .error .unknown
  | _ => .error .wrongFunction

/-- The problem with another domain of the variable of a function. -/
def Problem.setDomain (p : Problem N V) (f : Function K) (domain : VariableDomain) :
    Except BackendError (Problem N V) := do
  let v ← p.domainVariable f
  return { p with vars := p.vars.modify (v - 1) (fun x => { x with domain }) }

/-- The problem with a constraint, and the place of its row if it has one. -/
def Problem.extend (p : Problem N V) (f : Function K) (s : ConstraintSet N) :
    Except BackendError (Problem N V × Option Nat) :=
  match s with
  | .integer => do return (← p.setDomain f .integers, none)
  | .zeroOne => do return (← p.setDomain f .binary, none)
  | s => do
    let row ← p.row f s
    return ({ p with rows := p.rows ++ [row] }, some p.rows.length)

/-- Adds a constraint. A number is used up even when the constraint is refused. -/
def addConstraint (b : Algebraic N K V) (e : Entry N K) :
    Algebraic N K V × Except BackendError ConstraintHandle :=
  let p := b.problem
  let handle : ConstraintHandle := ⟨p.nextConstraint, e.function.family, e.set.family⟩
  let counted := { p with nextConstraint := p.nextConstraint + 1 }
  match counted.extend e.function e.set with
  | .ok (p, row) =>
    let constraints := p.constraints ++ [(handle, row)]
    ({ b with problem := { p with constraints } }, .ok handle)
  | .error e => ({ b with problem := counted }, .error e)

end

section

variable [CheckedArithmetic N K V]

/-- Sets the objective. The one before is dropped even when the new one is refused. A number that is
not real is refused too, but leaves an objective without a value behind. -/
def setObjective (b : Algebraic N K V) (sense : Sense) (f : Function K) :
    Algebraic N K V × Except BackendError Unit :=
  let dropped := { b.problem with objective := none }
  match b.problem.node f with
  | .ok node =>
    let problem := { dropped with maximizes := sense == Sense.maximize }
    if node.isPlain && !node.isReal N K then
      ({ b with problem := { problem with objective := some .undefined } }, .error .noValue)
    else ({ b with problem := { problem with objective := some node } }, .ok ())
  | .error e => ({ b with problem := dropped }, .error e)

end

/-! ## Calling the solver -/

/-- Whether some variable is restricted to integers. -/
def Problem.isIntegral (p : Problem N V) : Bool :=
  p.vars.any (fun x => x.domain != .reals)

/-- Makes a place for dual values, which only problems without integers have. -/
def prepare (b : Algebraic N K V) : Algebraic N K V :=
  if b.problem.isIntegral then b else { b with duals := some (b.duals.getD []) }

/-- How the solver is called. -/
def call (b : Algebraic N K V) (takesExecutable : Bool) : SolverCall where
  options := b.settings.options
  executable := if takesExecutable then b.settings.executable.filter (!·.isEmpty) else none
  tee := b.settings.tee
  loadsSolutions := false
  keepsDuals := b.duals.isSome

/-- The values with those that are reported put in their places. -/
def assign : List (Variable N) → List (Option N) → List (Variable N)
  | x :: xs, value :: values => { x with value := value.or x.value } :: assign xs values
  | xs, _ => xs

/-- The reported dual values of rows that are there. -/
def rowDuals (rows : Nat) (duals : List (Option N)) : List (Nat × N) :=
  ((duals.take rows).zipIdx.filterMap (fun (d, i) => d.map (fun d => (i, d))))

/-- Takes over a point: values that are not reported stay, dual values do not. -/
def load (b : Algebraic N K V) (point : SolverPoint N) : Algebraic N K V :=
  { b with
    problem := { b.problem with vars := assign b.problem.vars point.values }
    duals := b.duals.map (fun _ => rowDuals b.problem.rows.length point.duals) }

section

variable [Numeral N K] [CheckedArithmetic N K V]

/-- A bound on the objective, if the solver reports a finite one. -/
def finite? : Option N → Except BackendError (Option K)
  | none => .ok none
  | some n => do
    let c : K ← (Numeral.toCoefficient n).mapError .number
    return if CheckedArithmetic.extent N c = .finite then some c else none

end

section

variable [Zero K] [Add K] [Sub K] [Neg K] [Div K] [LT K] [DecidableLT K] [TextNumber K]

/-- The distance from zero, itself never below zero. -/
def distance (c : K) : K :=
  if c < 0 then -c else 0 + c

/-- The smallest size that a gap is taken relative to: `10 ^ -10`. -/
def leastSize : Except NumberError K :=
  TextNumber.ofLiteral (.decimal 1 (-10))

/-- The distance of two bounds relative to the upper one. -/
def relativeGap (lower upper : K) : Except BackendError K := do
  let least ← leastSize.mapError .number
  let size := distance upper
  return distance (upper - lower) / (if size < least then least else size)

end

section

variable [Zero K] [Add K] [Sub K] [Neg K] [Div K] [LT K] [DecidableLT K] [TextNumber K]
variable [Numeral N K] [CheckedArithmetic N K V]

/-- The gap that the bounds of a report leave, if both are finite. -/
def gapOf (r : SolverReport N) : Except BackendError (Option K) := do
  match ← finite? r.lowerBound, ← finite? r.upperBound with
  | some lower, some upper => return some (← relativeGap lower upper)
  | _, _ => return none

/-- Takes over a report. -/
def accept (b : Algebraic N K V) (r : SolverReport N) :
    Algebraic N K V × Except BackendError Unit :=
  let raw := (r.message.filter (!·.isEmpty)).getD r.condition.name
  let point := r.point.filter (fun _ => r.condition.isLoadable)
  let b := (point.map b.load).getD b
  let outcome : Outcome K := { b.outcome with
    termination := r.condition.status, raw := some raw, isLoaded := point.isSome }
  match gapOf r with
  | .ok gap => ({ b with outcome := { outcome with gap } }, .ok ())
  | .error e => ({ b with outcome }, .error e)

/-- Calls the solver and takes over its report. -/
def solve (b : Algebraic N K V) (solver : ScriptedSolver N) :
    Algebraic N K V × ScriptedSolver N × Except BackendError Unit :=
  let b := b.prepare
  match SolverName.ofText b.settings.solver with
  | .unknown name inner =>
    (b, solver, .error (.unknownSolver (unknownSolverReport name inner b.settings.options)))
  | .program name =>
    let isGiven := b.settings.executable.any (!·.isEmpty)
    (b, solver, .error (if isGiven then .givenProgram else .noSolver name))
  | .scripted takesExecutable =>
    let solver := { solver with seen := some (b.call takesExecutable) }
    match solver.script with
    | .failure text => (b, solver, .error (.failed text))
    | .report r =>
      let (b, result) := b.accept r
      (b, solver, result)

end

/-! ## Reading the solution -/

def resultCount (b : Algebraic N K V) : Nat :=
  if b.outcome.isLoaded then 1 else 0

/-- The one result that there may be. -/
def holds (b : Algebraic N K V) (result : Int) : Bool :=
  b.outcome.isLoaded && result == 1

def primalStatus (b : Algebraic N K V) (result : Int) : ResultStatus :=
  if b.holds result then .feasiblePoint else .noSolution

def dualStatus (b : Algebraic N K V) (result : Int) : ResultStatus :=
  if b.holds result && b.duals.any (!·.isEmpty) then .feasiblePoint else .noSolution

section

variable [Numeral N K] [CheckedArithmetic N K V]

/-- The value of a variable, which must be there and have one. -/
def variableValue (b : Algebraic N K V) (v : Nat) : Except BackendError V :=
  match b.problem.vars[v - 1]? with
  | some ⟨_, _, some n⟩ => .ok (CheckedArithmetic.ofNumber K n)
  | _ => .error .noValue

/-- The value of a node at the values of the variables. -/
def nodeValue (b : Algebraic N K V) (a : Node V) : Except BackendError K := do
  let x ← a.evaluate N K ofArithmetic b.variableValue
  (CheckedArithmetic.toCoefficient N x).mapError ofArithmetic

def objectiveValue (b : Algebraic N K V) (result : Int) : Except BackendError (Option K) :=
  if b.holds result then b.problem.objective.mapM b.nodeValue else .ok none

def variablePrimal (b : Algebraic N K V) (v : Int) (result : Int) :
    Except BackendError (Option K) :=
  if !b.holds result then .ok none
  else if v < 1 then .error .unknown
  else
    match b.problem.vars[v.toNat - 1]? with
    | none => .error .unknown
    | some x => x.value.mapM (fun n => (Numeral.toCoefficient n).mapError .number)

def constraintDual (b : Algebraic N K V) (handle : ConstraintHandle) (result : Int) :
    Except BackendError (Option K) :=
  match b.problem.constraints.lookup handle with
  | some (some row) =>
    let dual := if b.holds result then (b.duals.getD []).lookup row else none
    dual.mapM (fun n => (Numeral.toCoefficient n).mapError .number)
  | _ => .ok none

/-! ## Inspecting the problem -/

/-- The problem with other values of its first variables. -/
def withValues (b : Algebraic N K V) (values : List N) : Algebraic N K V :=
  { b with problem :=
    { b.problem with vars := assign b.problem.vars (values.map some) } }

/-- A bound as a coefficient: none where it lies beyond everything on its own side, but finite
otherwise. -/
def shownBound (side : Extent) (bound : Option N) : Except BackendError (Option K) := do
  let some n := bound | return none
  let c : K ← (Numeral.toCoefficient n).mapError .number
  let extent := CheckedArithmetic.extent N c
  if extent = side then return none
  else if extent = .finite then return some c
  else throw .infiniteBound

/-- The bounds of the rows and the values of their bodies. -/
def rowValues (b : Algebraic N K V) : Except BackendError (List (Option K × K × Option K)) :=
  b.problem.rows.mapM (fun row => do
    let lower ← shownBound .belowAll row.lower
    let body ← b.nodeValue row.body
    let upper ← shownBound .aboveAll row.upper
    return (lower, body, upper))

end

end Algebraic

end MathProg
