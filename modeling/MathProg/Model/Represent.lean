import MathProg.Model.Basic

/-!
# The representation of a model

Variables become positions, expressions canonical functions. A vector of variables alone keeps that
form. A model has a representation unless a number in its nonlinear objective fits no coefficient.
-/

namespace MathProg

variable {N K : Type} [Zero K] [Add K] [BEq K] [Numeral N K]

def LinearExpr.toAffine (e : LinearExpr K) : Affine K :=
  .canonical (e.terms.map (fun (v, c) => ((v.index : Int), c))) e.constant

def QuadraticExpr.toFunction (e : QuadraticExpr K) : Function K :=
  Function.canonicalQuadratic
    (e.pairs.map (fun (p, c) => (.of p.first.index p.second.index, c)))
    (e.linear.terms.map (fun (v, c) => ((v.index : Int), c)))
    e.linear.constant

namespace Expression

mutual

/-- The function of an expression; a number becomes a coefficient. -/
def toFunction : Expression N K → Except NumberError (Function K)
  | .number n => do return .number (← Numeral.toCoefficient n)
  | .var v => .ok (.var v.index)
  | .linear e => .ok (.affine e.toAffine)
  | .quadratic e => .ok e.toFunction
  | .nonlinear op args => do return .nonlinear op.head (← toFunctions args)

def toFunctions : List (Expression N K) → Except NumberError (List (Function K))
  | [] => .ok []
  | e :: es => do
    let f ← e.toFunction
    let fs ← toFunctions es
    return f :: fs

end

/-- The index of a variable that stands alone. -/
def index? : Expression N K → Option Int
  | .var v => some v.index
  | _ => none

/-- The affine function of an entry of a vector. -/
def toAffine [One K] : Expression N K → Affine K
  | .var v => (LinearExpr.ofVariable v).toAffine
  | .linear e => e.toAffine
  | _ => .zero

end Expression

variable [One K]

def ConstraintFunction.toFunction : ConstraintFunction N K → Except NumberError (Function K)
  | scalar e => e.toFunction
  | vector es =>
    match es.mapM Expression.index? with
    | some vs => .ok (.vars vs)
    | none => .ok (.rows (es.map Expression.toAffine))

def ConstraintData.toEntry (d : ConstraintData N K) : Except NumberError (Entry N K) := do
  return ⟨d.name, ← d.function.toFunction, d.set⟩

/-- The representation of a model. -/
def Model.represent (m : Model N K) : Except NumberError (Representation N K) := do
  let objective ← m.objective.toExpression.toFunction
  let constraints ← m.constraints.mapM ConstraintData.toEntry
  return ⟨m.vars.map (·.name), m.sense, objective, constraints⟩

end MathProg
