import MathProg.Backend.Load

/-!
# Results

What a backend has reported after a solve, taken all at once. A result has a primal and a dual side;
values are kept only on a side whose status says that there is something. Values of variables and
duals of constraints stand under the indices of the model.
-/

namespace MathProg

/-- One result. A dual value is a number or a vector. -/
structure ResultSlot (K : Type) where
  primalStatus : ResultStatus
  dualStatus : ResultStatus
  objectiveValue : Option K
  dualObjectiveValue : Option K
  primal : List (Nat × K)
  duals : List (Nat × Shaped K)

/-- What is known after a solve, with the revision of the model that was solved. -/
structure Results (N K : Type) where
  revision : Option Nat
  status : TerminationStatus
  raw : Option String
  slots : List (ResultSlot K)
  statistics : List (Statistic × N)

namespace Results

variable {N K V : Type}

/-- The results before any solve. -/
def none : Results N K :=
  ⟨Option.none, .optimizeNotCalled, Option.none, [], []⟩

/-- The results of a solve that has failed. -/
def ofFailure (revision : Nat) (text : String) : Results N K :=
  ⟨some revision, .otherError, some text, [], []⟩

section

variable [Numeral N K]

/-- A dual value as coefficients. -/
def shapedDual : DualValue N K → Except BackendError (Shaped K)
  | .scalar n => do return .scalar (← (Numeral.toCoefficient n).mapError .number)
  | .vector xs => .ok (.vector xs)

variable [CheckedArithmetic N K V]

/-- The values of the variables that have one. -/
def collectPrimal (b : Backend N K V) (vars : List Nat) (result : Int) :
    Except BackendError (List (Nat × K)) := do
  let values ← vars.zipIdx.mapM (fun (v, i) => do
    return (← b.variablePrimal v result).map (fun x => (i, x)))
  return values.filterMap id

/-- The duals of the constraints that have one. -/
def collectDuals (b : Backend N K V) (constraints : List ConstraintHandle) (result : Int) :
    Except BackendError (List (Nat × Shaped K)) := do
  let values ← constraints.zipIdx.mapM (fun (handle, i) => do
    match ← b.constraintDual handle result with
    | some dual => return some (i, ← shapedDual dual)
    | Option.none => return Option.none)
  return values.filterMap id

variable [Zero K] [One K] [Add K] [Sub K] [Mul K] [Neg K] [LT K] [DecidableLT K]
variable [OperatorMeaning K]

/-- One result of a backend. -/
def collectSlot (b : Backend N K V) (handles : Handles) (result : Int) :
    Except BackendError (ResultSlot K) := do
  let primalStatus := b.primalStatus result
  let dualStatus := b.dualStatus result
  let objectiveValue ← b.objectiveValue result
  let dualObjectiveValue ← b.dualObjectiveValue result
  let primal ←
    if primalStatus = .noSolution then pure [] else collectPrimal b handles.vars result
  let duals ←
    if dualStatus = .noSolution then pure [] else collectDuals b handles.constraints result
  return { primalStatus, dualStatus, objectiveValue, dualObjectiveValue, primal, duals }

/-- The statistics that a backend reports. -/
def collectStatistics (b : Backend N K V) : List (Statistic × N) :=
  Statistic.all.filterMap (fun s => (b.statistic s).map (fun n => (s, n)))

/-- Everything that a backend reports. -/
def collect (revision : Nat) (b : Backend N K V) (handles : Handles) :
    Except BackendError (Results N K) := do
  let slots ← (List.range b.resultCount.toNat).mapM (fun (i : Nat) =>
    collectSlot b handles (i + 1))
  return ⟨some revision, b.terminationStatus, b.rawStatus, slots, collectStatistics b⟩

end

/-! ## Reading -/

/-- Whether the results are those of the model as it is now. -/
def isCurrent (r : Results N K) (revision : Nat) : Bool :=
  r.revision == some revision

/-- The results if they are current, and else those before any solve. -/
def current (r : Results N K) (revision : Nat) : Results N K :=
  if r.isCurrent revision then r else none

/-- The result with a number; the first is one. -/
def slot? (r : Results N K) (result : Int) : Option (ResultSlot K) :=
  if 1 ≤ result then r.slots[result.toNat - 1]? else Option.none

def primalStatus (r : Results N K) (result : Int) : ResultStatus :=
  ((r.slot? result).map (·.primalStatus)).getD .noSolution

def dualStatus (r : Results N K) (result : Int) : ResultStatus :=
  ((r.slot? result).map (·.dualStatus)).getD .noSolution

def hasValues (r : Results N K) (result : Int) : Bool :=
  r.primalStatus result != .noSolution

def hasDuals (r : Results N K) (result : Int) : Bool :=
  r.dualStatus result != .noSolution

end Results

/-- A statistic as it is shown: a count is an integer. -/
def Results.shownStatistic {K : Type} (r : Results Number K) (s : Statistic) :
    Except NumberError (Option Number) :=
  (r.statistics.lookup s).mapM (fun n =>
    if s.isCount then do return .integer (← n.truncate) else .ok n)

end MathProg
