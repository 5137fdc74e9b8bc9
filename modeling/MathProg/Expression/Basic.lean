import MathProg.Function.Operator
import MathProg.Number.Basic
import MathProg.Terms

/-!
# Expressions

Expressions over the variables of models. Terms stand in the order in which they arrived, and a
coefficient that has become zero stays. A copy of an expression starts every coefficient from zero.
-/

namespace MathProg

/-- A variable, known by its model and its place in the order of creation. -/
structure VariableRef where
  model : Nat
  index : Nat
deriving DecidableEq, Repr

/-- A constraint, known by its model and its place in the order of creation. -/
structure ConstraintRef where
  model : Nat
  index : Nat
deriving DecidableEq, Repr

/-- Two variables in the order of their indices. -/
structure ReferencePair where
  first : VariableRef
  second : VariableRef
deriving DecidableEq, Repr

def ReferencePair.of (v w : VariableRef) : ReferencePair :=
  if v.index ≤ w.index then ⟨v, w⟩ else ⟨w, v⟩

/-- The sum `Σ c · x + constant`. -/
structure LinearExpr (K : Type) where
  terms : List (VariableRef × K)
  constant : K

/-- The sum `Σ c · x · y` and a linear part. -/
structure QuadraticExpr (K : Type) where
  pairs : List (ReferencePair × K)
  linear : LinearExpr K

/-- A scalar expression with written numbers `N` and coefficients `K`. -/
inductive Expression (N K : Type) where
  | number (n : N)
  | var (v : VariableRef)
  | linear (e : LinearExpr K)
  | quadratic (e : QuadraticExpr K)
  /-- An operator on expressions. -/
  | nonlinear (op : Operator) (args : List (Expression N K))

variable {N K : Type}

namespace LinearExpr

variable [Zero K] [One K] [Add K]

def ofConstant (c : K) : LinearExpr K :=
  ⟨[], c⟩

def ofVariable (v : VariableRef) : LinearExpr K :=
  ⟨[(v, 0 + 1)], 0⟩

def ofTerms (terms : List (VariableRef × K)) (constant : K) : LinearExpr K :=
  ⟨Terms.addAll [] terms, constant⟩

def copy (e : LinearExpr K) : LinearExpr K :=
  ofTerms e.terms e.constant

def vars (e : LinearExpr K) : List VariableRef :=
  e.terms.map (·.1)

end LinearExpr

namespace QuadraticExpr

variable [Zero K] [Add K]

def ofPairs (pairs : List (ReferencePair × K)) (linear : LinearExpr K) : QuadraticExpr K :=
  ⟨Terms.addAll [] pairs, linear.copy⟩

def ofLinear (e : LinearExpr K) : QuadraticExpr K :=
  ⟨[], e.copy⟩

def copy (e : QuadraticExpr K) : QuadraticExpr K :=
  ofPairs e.pairs e.linear

/-- The variables of the pairs, then those of the linear part, with repetitions. -/
def occurrences (e : QuadraticExpr K) : List VariableRef :=
  e.pairs.flatMap (fun (p, _) => [p.first, p.second]) ++ e.linear.vars

end QuadraticExpr

namespace Expression

mutual

/-- The variables in the order in which they occur, with repetitions. -/
def occurrences : Expression N K → List VariableRef
  | .number _ => []
  | .var v => [v]
  | .linear e => e.terms.map (·.1)
  | .quadratic e =>
    e.pairs.flatMap (fun (p, _) => [p.first, p.second]) ++ e.linear.terms.map (·.1)
  | .nonlinear _ args => occurrencesAll args

def occurrencesAll : List (Expression N K) → List VariableRef
  | [] => []
  | e :: es => e.occurrences ++ occurrencesAll es

end

/-- The variables in the order of their first occurrence. -/
def vars (e : Expression N K) : List VariableRef :=
  e.occurrences.eraseDups

mutual

/-- Whether all operators of the expression are exact. -/
def isExact : Expression N K → Bool
  | .nonlinear op args => op.isExact && areExact args
  | _ => true

def areExact : List (Expression N K) → Bool
  | [] => true
  | e :: es => e.isExact && areExact es

end

/-- Whether the expression may be a constraint with a scalar set. -/
def isScalarFunction : Expression N K → Bool
  | .var _ => true
  | .linear _ => true
  | .quadratic _ => true
  | _ => false

end Expression

end MathProg
