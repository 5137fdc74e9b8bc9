import MathProg.Backend.Basic

/-!
# Loading a representation

A load writes the variables, the constraints and the objective of a representation into a backend,
in this order. Positions of variables become the numbers that the backend has given. An objective
that the backend does not take is left out. A load that fails stops where it failed.
-/

namespace MathProg

/-- The handles of the variables and constraints of a representation, in their order. -/
structure Handles where
  vars : List Nat
  constraints : List ConstraintHandle
deriving DecidableEq, Repr

/-- What a load gives: the handles, and whether the objective was taken. -/
structure Loaded where
  handles : Handles
  hasObjective : Bool
deriving DecidableEq, Repr

/-- The number of the variable in a position. -/
def Handles.number (vars : List Nat) (position : Int) : Int :=
  vars.getD position.toNat 0

namespace Backend

variable {N K V : Type}

/-- Adds variables and gives their numbers. -/
def addVariables (b : Backend N K V) : List (Option String) → List Nat × Backend N K V
  | [] => ([], b)
  | name :: rest =>
    let (v, b) := b.addVariable name
    let (vs, b) := b.addVariables rest
    (v :: vs, b)

/-- The first pair of families that the backend does not support. It is not asked again about a
pair that it supports. -/
def firstUnsupported (b : Backend N K V) (seen : List (FunctionFamily × SetFamily)) :
    List (FunctionFamily × SetFamily) → Option (FunctionFamily × SetFamily)
  | [] => none
  | pair :: rest =>
    if pair ∈ seen then b.firstUnsupported seen rest
    else if b.supportsConstraint pair.1 pair.2 then b.firstUnsupported (pair :: seen) rest
    else some pair

/-- The first constraint of a family that the backend does not support. -/
def unsupported? (b : Backend N K V) (r : Representation N K) :
    Option (FunctionFamily × SetFamily) :=
  b.firstUnsupported [] (r.constraints.map Entry.families)

variable [Zero K] [Add K] [BEq K] [LT K] [DecidableLT K]
variable [Numeral N K] [CheckedArithmetic N K V]

/-- Adds constraints, up to the first that is refused. -/
def addConstraints (b : Backend N K V) :
    List (Entry N K) → Backend N K V × Except BackendError (List ConstraintHandle)
  | [] => (b, .ok [])
  | e :: rest =>
    match b.addConstraint e with
    | (b, .error e) => (b, .error e)
    | (b, .ok handle) =>
      let (b, result) := b.addConstraints rest
      (b, result.map (handle :: ·))

/-- Sets the objective if the backend takes it, and tells whether it does. -/
def offerObjective (b : Backend N K V) (r : Representation N K) (vars : List Nat) :
    Backend N K V × Except BackendError Bool :=
  if b.acceptsObjective r.objective then
    let (b, result) := b.setObjective r.sense (r.objective.mapVariables (Handles.number vars))
    (b, result.map (fun _ => true))
  else (b, .ok false)

/-- The entry of a representation over numbers of variables. -/
def numberedEntry (vars : List Nat) (e : Entry N K) : Entry N K :=
  { e with function := e.function.mapVariables (Handles.number vars) }

/-- Loads a representation. -/
def load (b : Backend N K V) (r : Representation N K) :
    Backend N K V × Except BackendError Loaded :=
  let (vars, b) := b.addVariables r.variableNames
  match b.addConstraints (r.constraints.map (numberedEntry vars)) with
  | (b, .error e) => (b, .error e)
  | (b, .ok constraints) =>
    let (b, result) := b.offerObjective r vars
    (b, result.map (fun hasObjective => ⟨⟨vars, constraints⟩, hasObjective⟩))

end Backend

end MathProg
