import MathProg.ConstraintSet.Text
import MathProg.Expression.Text
import MathProg.Model.Fit

/-!
# Models as text

Variables and constraints appear under their names, or by their numbers without one.
-/

namespace MathProg

namespace Model

/-- A name that is there and not empty. -/
def shownName (name : Option String) : Option String :=
  name.filter (fun name => !name.isEmpty)

/-- The text of a variable of the model. -/
def variableLabel {N K : Type} (m : Model N K) (v : VariableRef) : Option String := do
  let d ← m.variableData? v
  let number := v.index + 1
  return (shownName d.name).getD s!"_[{number}]"

/-- The text of a constraint of the model. -/
def constraintLabel {N K : Type} (m : Model N K) (c : ConstraintRef) : Option String := do
  let d ← m.constraintData? c
  let index := c.index
  return (shownName d.name).getD s!"ConstraintRef({index})"

def text {N K : Type} (m : Model N K) : String :=
  let name := (m.name.map Text.quoted).getD "None"
  let vars := m.vars.length
  let constraints := m.constraints.length
  let sense := m.sense.name
  s!"Model(name={name}, variables={vars}, constraints={constraints}, sense={sense})"

end Model

/-- The labels of all references to some models, each known by its place in the list. -/
def Labels.ofModels {N K : Type} (models : List (Model N K)) : Labels where
  reference v := (models[v.model]?).bind (fun m => m.variableLabel v)
  constraint c := (models[c.model]?).bind (fun m => m.constraintLabel c)
  model i := ((models[i]?).map (fun m => m.text)).getD ""

def BoundRole.text : BoundRole → String
  | lower => "lower bound"
  | upper => "upper bound"
  | fixed => "fixing constraint"
  | integer => "integrality constraint"
  | binary => "binary constraint"

def ConstraintFunction.text (l : Labels) : ConstraintFunction Number Float → Option String
  | scalar e => e.text l
  | vector es => do
    match ← es.mapM (·.text l) with
    | [single] => return "(" ++ single ++ ",)"
    | texts => return "(" ++ ", ".intercalate texts ++ ")"

/-- The message of an error, if it has one; a reference without a label makes it impossible. -/
def ModelError.message? (l : Labels) : ModelError Number Float → Option (Option String)
  | expression e => some e.message?
  | dimension e => some e.message?
  | number _ => some none
  | noSet o => do
    let shown ← o.asText l
    return some s!"{shown} is not a constraint set"
  | scalarNeeded family kind =>
    let name := family.name
    some (some s!"scalar set {name} needs a scalar function, got {kind}")
  | vectorNeeded family =>
    let name := family.name
    some (some s!"vector set {name} needs a vector function")
  | vectorEntry kind =>
    some (some s!"vector functions hold variables or affine expressions, got {kind}")
  | noEntries => some none
  | noVariable o => do
    let shown ← o.asText l
    return some s!"variable {shown} does not belong to this model"
  | noConstraint o => do
    let shown ← o.asText l
    return some s!"constraint {shown} does not belong to this model"
  | noBound v role => do
    let shown ← l.reference v
    let label := role.text
    return some s!"variable {shown} has no {label}"
  | objectiveKind kind => some (some s!"objective must be affine or quadratic, got {kind}")
  | nonlinearObjectiveKind kind =>
    some (some s!"nonlinear objective must be a NonlinearExpr, got {kind}")
  | unknownSense => some none
  | side _ => some none

end MathProg
