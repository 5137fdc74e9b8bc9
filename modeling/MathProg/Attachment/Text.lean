import MathProg.Attachment.Query
import MathProg.Model.Text
import MathProg.Number.FloatText

/-!
# Messages about handles and results

References appear under the labels of their models; a reference without a label makes the message
impossible. A report tells the status and, where the first result has something to tell, the values
of the variables with the objective and the duals of the constraints that have names. Numbers have at
most six significant digits.
-/

namespace MathProg

def ResultAttribute.name : ResultAttribute → String
  | objectiveValue => "ObjectiveValue"
  | dualObjectiveValue => "DualObjectiveValue"
  | variablePrimal => "VariablePrimal"
  | constraintDual => "ConstraintDual"

def HandleError.message? (l : Labels) : HandleError Number Float → Option String
  | notAttached => some "no backend is attached"
  | stale => some "the model was modified after the backend was built; call ensure_synced() first"
  | foreign o => do
    let shown ← o.asText l
    return s!"{shown} does not belong to the attached model"
  | tooNew o => do
    let shown ← o.asText l
    return s!"{shown} was created after the last attach"

def ResultError.message? (l : Labels) : ResultError Number Float → Option (Option String)
  | outOfRange asked result count =>
    let name := asked.name
    some (some (s!"Result index of attribute {name} out of bounds. There are currently {count} " ++
      s!"solution(s) in the model (requested {result})."))
  | noObjective result =>
    some (some s!"the backend did not report an objective value for result {result}")
  | noDualObjective result =>
    some (some s!"the backend did not report a dual objective value for result {result}")
  | noPrimal v result status => do
    let shown ← l.reference v
    let status := status.name
    return some s!"no primal value for {shown} in result {result} (primal status {status})"
  | noDual c result status => do
    let shown ← l.constraint c
    let status := status.name
    return some s!"no dual value for {shown} in result {result} (dual status {status})"
  | foreign v => do
    let shown ← l.reference v
    return some s!"{shown} does not belong to this model"
  | noConstraint kind => some (some s!"duals are defined for constraints, got {kind}")
  | noValue kind => some (some s!"cannot take the value of {kind}")
  | noNumber => some none
  | model e => e.message? l
  | reshape _ => some none
  | number _ => some none
  | operator _ => some none

/-! ## Reports of solves -/

namespace Results

/-- A value that is a number, in a report. -/
def reported : Shaped Float → Except (ResultError Number Float) String
  | .scalar x => .ok (FloatText.general 6 x)
  | _ => .error .noNumber

def valueLine (r : Results Number Float) (m : Model Number Float) (v : VariableRef) :
    Except (ResultError Number Float) String := do
  let value ← reported (← r.value m (.expression (.var v)) 1)
  let name := ((m.variableData? v).bind (·.name)).getD "None"
  return s!"  {name} = {value}"

def dualLine (r : Results Number Float) (m : Model Number Float) (c : ConstraintRef)
    (name : String) : Except (ResultError Number Float) String := do
  let dual ← reported (← r.dual m (.constraint c) 1)
  return s!"  dual[{name}] = {dual}"

/-- The constraints that have names. -/
def namedConstraints (m : Model Number Float) : List (ConstraintRef × String) :=
  m.constraintRefs.filterMap (fun c => do
    let name ← (← m.constraintData? c).name
    if name.isEmpty then Option.none else some (c, name))

/-- The lines of the report. -/
def report (r : Results Number Float) (m : Model Number Float) :
    Except (ResultError Number Float) (List String) := do
  let status := r.status.name
  let count := r.slots.length
  let values ← if !r.hasValues 1 then pure [] else do
    let lines ← m.variableRefs.mapM (r.valueLine m)
    let objective := FloatText.general 6 (← r.objectiveValue 1)
    pure (lines ++ [s!"  objective = {objective}"])
  let duals ← if !r.hasDuals 1 then pure [] else
    (namedConstraints m).mapM (fun (c, name) => r.dualLine m c name)
  return s!"status={status} results={count}" :: values ++ duals

end Results

end MathProg
