import MathProg.ConstraintSet.Layout
import MathProg.Expression.Operand
import MathProg.Expression.Shape
import MathProg.Model.Basic

/-!
# Fitting functions to sets

Before a constraint is stored its function is brought into the form that its set asks for. The
constant of a scalar function moves into a set with bounds, so `x + 1 ≤ 3` becomes `x ≤ 2`. Matrices
are flattened, and a set whose size is open takes the size of the function.
-/

namespace MathProg

/-- Why a model refuses an edit or a question. -/
inductive ModelError (N K : Type) where
  | expression (e : ExpressionError)
  | dimension (e : DimensionError)
  | number (e : NumberError)
  | noSet (o : Operand N K)
  /-- A scalar set with an operand of the named kind. -/
  | scalarNeeded (family : SetFamily) (kind : String)
  | vectorNeeded (family : SetFamily)
  /-- An entry of the named kind in a vector. -/
  | vectorEntry (kind : String)
  /-- An operand that holds no entries. -/
  | noEntries
  /-- An operand that is no variable of the model. -/
  | noVariable (o : Operand N K)
  /-- An operand that is no constraint of the model. -/
  | noConstraint (o : Operand N K)
  | noBound (v : VariableRef) (role : BoundRole)
  | objectiveKind (kind : String)
  | nonlinearObjectiveKind (kind : String)
  | unknownSense
  | side (e : SideError)

variable {N K : Type} [Zero K] [One K] [Add K] [Mul K] [Neg K] [BEq K] [Numeral N K]

namespace Expression

/-- The constant that can be moved out of a scalar function. -/
def constantPart : Expression N K → K
  | .linear e => e.constant
  | .quadratic e => e.linear.constant
  | _ => 0

end Expression

namespace Operand

/-- A scalar function as it is: a number counts as an affine expression. -/
def scalarFunction (s : ConstraintSet N) : Operand N K → Except (ModelError N K) (Expression N K)
  | expression (.number n) => do
    return .linear (.ofConstant (← (Expression.coefficient n).mapError .expression))
  | expression e =>
    if e.isScalarFunction then .ok e else .error (.scalarNeeded s.family e.kindName)
  | other => .error (.scalarNeeded s.family other.kindName)

/-- The entries of an operand that stands for a vector. -/
def entries (s : ConstraintSet N) : Operand N K → Except (ModelError N K) (List (Operand N K))
  | expression (.nonlinear _ _) => .error .noEntries
  | expression _ => .error (.vectorNeeded s.family)
  | list items => .ok items
  | tuple items => .ok items
  | text t => .ok (t.toList.map (fun c => text (String.singleton c)))
  | array [] _ => .error .noEntries
  | array [_] items => .ok items
  | array (n :: rest) items =>
    .ok ((Shape.slices (n :: rest) items).map (array rest))
  | _ => .error .noEntries

/-- The row of a matrix that an entry is, if it is one. -/
def row? : Operand N K → Option (List (Operand N K))
  | list items => some items
  | tuple items => some items
  | array [] _ => Option.none
  | array [_] items => some items
  | array (n :: rest) items => some ((Shape.slices (n :: rest) items).map (array rest))
  | _ => Option.none

/-- Whether the operand is a matrix whatever its rows hold. -/
def isMatrix : Operand N K → Bool
  | array [_, _] _ => true
  | _ => false

/-- An entry of a stored vector. -/
def vectorEntry : Operand N K → Except (ModelError N K) (Expression N K)
  | expression (.number n) => do
    return .linear (.ofConstant (← (Expression.coefficient n).mapError .expression))
  | expression (.var v) => .ok (.var v)
  | expression (.linear e) => .ok (.linear e)
  | other => .error (.vectorEntry other.kindName)

end Operand

namespace ConstraintSet

/-- Moves the constant of a scalar function into the set. -/
def fitScalar (s : ConstraintSet N) (e : Expression N K) :
    Except (ModelError N K) (Expression N K × ConstraintSet N) :=
  if e.constantPart == 0 || !s.isShiftable then .ok (e, s)
  else do
    let c : N := Numeral.ofCoefficient e.constantPart
    let e ← (e.sub (.number c)).mapError .expression
    let s ← (s.shifted c).mapError .number
    return (e, s)

/-- The flat list of entries, a matrix or a list of rows being flattened as the set asks. -/
def flatEntries (s : ConstraintSet N) (o : Operand N K) :
    Except (ModelError N K) (List (Operand N K)) := do
  let items ← o.entries s
  match items.mapM Operand.row? with
  | some rows =>
    if items.isEmpty && !o.isMatrix then return items
    else (s.vectorize rows).mapError .dimension
  | none => return items

/-- The function and the set that are stored for `o in s`. -/
def fit (s : ConstraintSet N) (o : Operand N K) :
    Except (ModelError N K) (ConstraintFunction N K × ConstraintSet N) :=
  match s.kind with
  | .scalar => do
    let (e, s) ← s.fitScalar (← o.scalarFunction s)
    return (.scalar e, s)
  | _ => do
    let items ← s.flatEntries o
    let entries ← items.mapM Operand.vectorEntry
    let s ← (s.withDimension entries.length).mapError .dimension
    return (.vector entries, s)

end ConstraintSet

end MathProg
