import MathProg.Attachment.Basic
import MathProg.Expression.Evaluation
import MathProg.Expression.Shape
import MathProg.Model.Edit

/-!
# Questions to an attachment

Which handle a reference has, and what the results say of it. Results count only as long as the
model is not changed. A status can be asked for any result, and is that of no solution where there
is none; a value or a dual is refused there.
-/

namespace MathProg

variable {N K : Type}

/-! ## Handles -/

inductive Handle where
  | var (number : Nat)
  | constraint (handle : ConstraintHandle)
deriving DecidableEq, Repr

/-- Why a reference has no handle. -/
inductive HandleError (N K : Type) where
  | notAttached
  | stale
  /-- An operand that is no reference into the model. -/
  | foreign (o : Operand N K)
  | tooNew (o : Operand N K)

/-- The handle of a reference, while the backend is built from the model as it is. -/
def Attachment.handle (a : Attachment N K) (m : Model N K) (o : Operand N K) :
    Except (HandleError N K) Handle :=
  match a.handleMap.revision with
  | none => .error .notAttached
  | some revision =>
    if revision ≠ m.revision then .error .stale
    else
      match o with
      | .expression (.var v) =>
        if v.model ≠ m.id then .error (.foreign o)
        else
          match a.handleMap.handles.vars[v.index]? with
          | some number => .ok (.var number)
          | none => .error (.tooNew o)
      | .constraint c =>
        if c.model ≠ m.id then .error (.foreign o)
        else
          match a.handleMap.handles.constraints[c.index]? with
          | some handle => .ok (.constraint handle)
          | none => .error (.tooNew o)
      | o => .error (.foreign o)

/-! ## Values -/

/-- What may be asked of one result. -/
inductive ResultAttribute where
  | objectiveValue
  | dualObjectiveValue
  | variablePrimal
  | constraintDual
deriving DecidableEq, Repr

/-- Why the results give no value. -/
inductive ResultError (N K : Type) where
  | outOfRange (asked : ResultAttribute) (result : Int) (count : Nat)
  | noObjective (result : Int)
  | noDualObjective (result : Int)
  | noPrimal (v : VariableRef) (result : Int) (status : ResultStatus)
  | noDual (c : ConstraintRef) (result : Int) (status : ResultStatus)
  /-- A variable of another model. -/
  | foreign (v : VariableRef)
  /-- The dual of an operand of the named kind. -/
  | noConstraint (kind : String)
  /-- The value of an operand of the named kind. -/
  | noValue (kind : String)
  /-- An entry of an array whose value is no number. -/
  | noNumber
  | model (e : ModelError N K)
  | reshape (e : ReshapeError)
  | number (e : NumberError)
  | operator (e : OperatorError)

namespace Results

/-- The result that is asked of. -/
def slot (r : Results N K) (asked : ResultAttribute) (result : Int) :
    Except (ResultError N K) (ResultSlot K) :=
  match r.slot? result with
  | some slot => .ok slot
  | Option.none => .error (.outOfRange asked result r.slots.length)

def objectiveValue (r : Results N K) (result : Int) : Except (ResultError N K) K := do
  match (← r.slot .objectiveValue result).objectiveValue with
  | some x => return x
  | Option.none => .error (.noObjective result)

def dualObjectiveValue (r : Results N K) (result : Int) : Except (ResultError N K) K := do
  match (← r.slot .dualObjectiveValue result).dualObjectiveValue with
  | some x => return x
  | Option.none => .error (.noDualObjective result)

end Results

namespace ResultSlot

variable [Numeral N K] [OperatorMeaning K]

/-- The value of a variable of the model in a result. -/
def primalOf (slot : ResultSlot K) (m : Model N K) (result : Int) (v : VariableRef) :
    Except (ResultError N K) K :=
  if v.model ≠ m.id then .error (.foreign v)
  else
    match slot.primal.lookup v.index with
    | some x => .ok x
    | none => .error (.noPrimal v result slot.primalStatus)

/-- Expressions at the values of a result. -/
def valuation (slot : ResultSlot K) (m : Model N K) (result : Int) :
    Valuation (Except (ResultError N K)) N K where
  reference := slot.primalOf m result
  number n := (Numeral.toCoefficient n).mapError .number
  operator op args := (OperatorMeaning.apply op args).mapError .operator

variable [Add K] [Mul K]

/-- The value of a stored function, a list for a vector. -/
def functionValue (slot : ResultSlot K) (m : Model N K) (result : Int) :
    ConstraintFunction N K → Except (ResultError N K) (Shaped K)
  | .scalar e => do return .scalar (← e.evaluate (slot.valuation m result))
  | .vector es => do return .vector (← es.mapM (·.evaluate (slot.valuation m result)))

/-- A value in the shape of a set. -/
def shape (s : ConstraintSet N) (x : Shaped K) : Except (ResultError N K) (Shaped K) :=
  (s.reshape Except.ok x).mapError .reshape

/-- The values of the entries of an array in its shape. -/
def arrayValue : List Nat → List K → Shaped K
  | [m, n], xs => .matrix (Shape.slices [m, n] xs)
  | m :: rest, xs => .stack ((Shape.slices (m :: rest) xs).map (arrayValue rest))
  | [], [x] => .scalar x
  | [], xs => .vector xs

/-- The value of an entry of an array, which must be a single number. -/
def entryValue (x : Shaped K) : Except (ResultError N K) K :=
  match x.only? with
  | some x => .ok x
  | none => .error .noNumber

mutual

/-- The value of an expression, or of the function of a constraint in the shape of its set. For an
array every entry is evaluated before one is looked at. -/
def valueOf (slot : ResultSlot K) (m : Model N K) (result : Int) (o : Operand N K) :
    Except (ResultError N K) (Shaped K) :=
  match o with
  | .expression e => do return .scalar (← e.evaluate (slot.valuation m result))
  | .constraint _ => do
    let (_, d) ← (m.checkConstraint o).mapError .model
    shape d.set (← slot.functionValue m result d.function)
  | .array shape entries => do
    let values ← slot.valuesOf m result entries
    return arrayValue shape (← values.mapM entryValue)
  | other => .error (.noValue other.kindName)

def valuesOf (slot : ResultSlot K) (m : Model N K) (result : Int) :
    List (Operand N K) → Except (ResultError N K) (List (Shaped K))
  | [] => .ok []
  | o :: os => do
    let first ← slot.valueOf m result o
    let others ← slot.valuesOf m result os
    return first :: others

end

end ResultSlot

namespace Results

variable [Add K] [Mul K] [Numeral N K] [OperatorMeaning K]

/-- The value of an operand in a result. -/
def value (r : Results N K) (m : Model N K) (o : Operand N K) (result : Int) :
    Except (ResultError N K) (Shaped K) := do
  let slot ← r.slot .variablePrimal result
  slot.valueOf m result o

/-- The dual of a constraint in a result, in the shape of its set. -/
def dual (r : Results N K) (m : Model N K) (o : Operand N K) (result : Int) :
    Except (ResultError N K) (Shaped K) := do
  let slot ← r.slot .constraintDual result
  match o with
  | .constraint c => do
    let (_, d) ← (m.checkConstraint o).mapError .model
    match slot.duals.lookup c.index with
    | some dual => ResultSlot.shape d.set dual
    | Option.none => .error (.noDual c result slot.dualStatus)
  | other => .error (.noConstraint other.kindName)

end Results

/-- The results of an attachment that are still those of its model. -/
def Attachment.currentResults (a : Attachment N K) (m : Model N K) : Results N K :=
  a.results.current m.revision

end MathProg
