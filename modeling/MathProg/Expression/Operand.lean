import MathProg.Expression.Arithmetic
import MathProg.Number.Complex

/-!
# Operands

What a caller may hand to an operator or to a model: an expression, a list or an array of operands,
or something that is no part of a model at all and is refused by its kind.
-/

namespace MathProg

inductive Operand (N K : Type) where
  | expression (e : Expression N K)
  | complex (z : Complex)
  | none
  | truth (b : Bool)
  | text (s : String)
  | list (items : List (Operand N K))
  | tuple (items : List (Operand N K))
  /-- An array: its shape and its entries, the last axis running fastest. -/
  | array (shape : List Nat) (entries : List (Operand N K))
  | constraint (c : ConstraintRef)
  | model (m : Nat)

variable {N K : Type} [Zero K] [One K] [Add K] [Mul K] [Neg K] [Numeral N K]

/-- The name of the kind of expression. -/
def Expression.kindName : Expression N K → String
  | .number n => Numeral.kindName n
  | .var _ => "VariableRef"
  | .linear _ => "AffExpr"
  | .quadratic _ => "QuadExpr"
  | .nonlinear _ _ => "NonlinearExpr"

namespace Operand

/-- The array with the given rows, which are of one length. -/
def ofRows (rows : List (List (Operand N K))) : Operand N K :=
  array [rows.length, (rows.head?.map List.length).getD 0] rows.flatten

/-- The name of the kind of operand. -/
def kindName : Operand N K → String
  | expression e => e.kindName
  | complex _ => "complex"
  | none => "NoneType"
  | truth _ => "bool"
  | text _ => "str"
  | list _ => "list"
  | tuple _ => "tuple"
  | array _ _ => "ndarray"
  | constraint _ => "ConstraintRef"
  | model _ => "Model"

/-- An argument of a nonlinear operator. -/
def argument : Operand N K → Except ExpressionError (Expression N K)
  | expression e => .ok e
  | other => .error (.nonlinearArgument other.kindName)

/-- A node with the given head, whose arguments must fit. -/
def node (head : String) (args : List (Operand N K)) : Except ExpressionError (Expression N K) :=
  match Operator.ofHead? head with
  | Option.none => .error (.unknownOperator head)
  | some op =>
    match op.arity? with
    | some expected =>
      if args.length = expected then do return .nonlinear op (← args.mapM argument)
      else .error (.arity head expected args.length)
    | Option.none => do return .nonlinear op (← args.mapM argument)

def toLinear : Operand N K → Except ExpressionError (LinearExpr K)
  | expression e => e.toLinear
  | other => .error (.notAffine other.kindName)

def toQuadratic : Operand N K → Except ExpressionError (QuadraticExpr K)
  | expression e => e.toQuadratic
  | other => .error (.notAffine other.kindName)

def isArray : Operand N K → Bool
  | array _ _ => true
  | _ => false

mutual

/-- Whether all operators in the operand are exact. -/
def isExact : Operand N K → Bool
  | expression e => e.isExact
  | array _ entries => areExact entries
  | _ => true

def areExact : List (Operand N K) → Bool
  | [] => true
  | o :: os => o.isExact && areExact os

end

end Operand

end MathProg
