import MathProg.ConstraintSet.Basic
import MathProg.Expression.Basic
import MathProg.Representation.Basic

/-!
# Models

A model is data: variables, constraints and one objective. Variables and constraints are only ever
added. Every change raises the revision, by which others notice that what they know is out of date.
-/

namespace MathProg

/-- The left side of a constraint: one scalar expression, or one affine expression for every entry
of a vector. -/
inductive ConstraintFunction (N K : Type) where
  | scalar (e : Expression N K)
  | vector (es : List (Expression N K))

structure ConstraintData (N K : Type) where
  function : ConstraintFunction N K
  set : ConstraintSet N
  name : Option String

/-- The roles of a constraint that came with a variable. -/
inductive BoundRole where
  | lower
  | upper
  | fixed
  | integer
  | binary
deriving DecidableEq, Repr

/-- A variable, with the index of the constraint in each role that it came with. -/
structure VariableData where
  name : Option String
  bounds : List (BoundRole × Nat)

inductive Objective (N K : Type) where
  | linear (e : LinearExpr K)
  | quadratic (e : QuadraticExpr K)
  | nonlinear (op : Operator) (args : List (Expression N K))

structure Model (N K : Type) where
  /-- The number that references to this model carry. -/
  id : Nat
  name : Option String
  revision : Nat
  vars : List VariableData
  constraints : List (ConstraintData N K)
  sense : Sense
  objective : Objective N K

variable {N K : Type}

namespace ConstraintFunction

/-- All expressions of the function. -/
def entries : ConstraintFunction N K → List (Expression N K)
  | scalar e => [e]
  | vector es => es

/-- The name of the kind of function. -/
def kindName : ConstraintFunction N K → String
  | scalar (.var _) => "VariableRef"
  | scalar (.quadratic _) => "QuadExpr"
  | scalar _ => "AffExpr"
  | vector _ => "tuple"

end ConstraintFunction

namespace Objective

def isNonlinear : Objective N K → Bool
  | nonlinear _ _ => true
  | _ => false

def toExpression : Objective N K → Expression N K
  | linear e => .linear e
  | quadratic e => .quadratic e
  | nonlinear op args => .nonlinear op args

/-- The affine or quadratic part; zero beside a nonlinear objective. -/
def function [Zero K] : Objective N K → Expression N K
  | linear e => .linear e
  | quadratic e => .quadratic e
  | nonlinear _ _ => .linear ⟨[], 0⟩

/-- The name of the kind of the affine or quadratic part. -/
def kindName : Objective N K → String
  | quadratic _ => "QuadExpr"
  | _ => "AffExpr"

end Objective

namespace Model

def empty [Zero K] (id : Nat) (name : Option String) : Model N K :=
  ⟨id, name, 0, [], [], .feasibility, .linear ⟨[], 0⟩⟩

variable (m : Model N K)

def owns (v : VariableRef) : Bool :=
  v.model == m.id && v.index < m.vars.length

def variableData? (v : VariableRef) : Option VariableData :=
  if v.model = m.id then m.vars[v.index]? else none

def constraintData? (c : ConstraintRef) : Option (ConstraintData N K) :=
  if c.model = m.id then m.constraints[c.index]? else none

def variableRefs : List VariableRef :=
  (List.range m.vars.length).map (fun i => ⟨m.id, i⟩)

def constraintRefs : List ConstraintRef :=
  (List.range m.constraints.length).map (fun i => ⟨m.id, i⟩)

/-- The first variable with the given name. -/
def variableByName? (name : Option String) : Option VariableRef :=
  (m.vars.findIdx? (fun d => d.name == name)).map (fun i => ⟨m.id, i⟩)

/-- The first constraint with the given name. -/
def constraintByName? (name : Option String) : Option ConstraintRef :=
  (m.constraints.findIdx? (fun d => d.name == name)).map (fun i => ⟨m.id, i⟩)

end Model

end MathProg
