import MathProg.Expression.Basic

/-!
# Values of expressions

An expression is evaluated in a monad, so that a variable or a number may have no value. Terms are
added to the constant in their order, and the pairs of a quadratic expression after its linear part.
-/

namespace MathProg

/-- How the parts of an expression are read. -/
structure Valuation (m : Type → Type) (N K : Type) where
  reference : VariableRef → m K
  number : N → m K
  operator : Operator → List K → m K

variable {N K : Type} {m : Type → Type} [Monad m] [Add K] [Mul K]

def LinearExpr.evaluate (value : VariableRef → m K) (e : LinearExpr K) : m K :=
  e.terms.foldlM (fun total (v, c) => do return total + c * (← value v)) e.constant

def QuadraticExpr.evaluate (value : VariableRef → m K) (e : QuadraticExpr K) : m K := do
  let linear ← e.linear.evaluate value
  e.pairs.foldlM
    (fun total (p, c) => do
      let x ← value p.first
      let y ← value p.second
      return total + c * x * y) linear

namespace Expression

mutual

def evaluate (i : Valuation m N K) : Expression N K → m K
  | .number n => i.number n
  | .var v => i.reference v
  | .linear e => e.evaluate i.reference
  | .quadratic e => e.evaluate i.reference
  | .nonlinear op args => do i.operator op (← evaluateAll i args)

def evaluateAll (i : Valuation m N K) : List (Expression N K) → m (List K)
  | [] => return []
  | e :: es => do
    let x ← e.evaluate i
    let xs ← evaluateAll i es
    return x :: xs

end

end Expression

end MathProg
