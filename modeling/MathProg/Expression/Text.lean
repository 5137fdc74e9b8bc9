import MathProg.Config.Data
import MathProg.Expression.ArrayText
import MathProg.Expression.Operand
import MathProg.Number.Complex

/-!
# Expressions as text

Coefficients have at most six significant digits, as in `2 x + 1`. Names of variables and
constraints come from their models; a reference that its model does not know has no text.
-/

namespace MathProg

/-- The texts of what expressions refer to. -/
structure Labels where
  reference : VariableRef → Option String
  constraint : ConstraintRef → Option String
  model : Nat → String

variable (l : Labels)

def termLabel (v : VariableRef) (c : Float) : Option String := do
  return FloatText.general 6 c ++ " " ++ (← l.reference v)

def LinearExpr.text (e : LinearExpr Float) : Option String := do
  let parts ← e.terms.mapM (fun (v, c) => termLabel l v c)
  let constant :=
    if e.constant != 0.0 || parts.isEmpty then [FloatText.general 6 e.constant] else []
  return " + ".intercalate (parts ++ constant)

def QuadraticExpr.text (e : QuadraticExpr Float) : Option String := do
  let pairs ← e.pairs.mapM (fun (p, c) => do
    return (← termLabel l p.first c) ++ "*" ++ (← l.reference p.second))
  return " + ".intercalate (pairs ++ [← e.linear.text l])

mutual

def Expression.text : Expression Number Float → Option String
  | .number n => some n.text
  | .var v => l.reference v
  | .linear e => e.text l
  | .quadratic e => e.text l
  | .nonlinear op args => do
    return op.head ++ "(" ++ ", ".intercalate (← Expression.texts args) ++ ")"

def Expression.texts : List (Expression Number Float) → Option (List String)
  | [] => some []
  | e :: es => do
    let first ← e.text
    return first :: (← Expression.texts es)

end

/-! ## Operands -/

namespace Operand

mutual

def asText : Operand Number Float → Option String
  | expression e => e.text l
  | complex z => some z.text
  | none => some "None"
  | truth b => some (Data.truthText b)
  | text s => some (Text.quoted s)
  | list items => do return "[" ++ ", ".intercalate (← asTexts items) ++ "]"
  | tuple items => do
    match ← asTexts items with
    | [single] => return "(" ++ single ++ ",)"
    | texts => return "(" ++ ", ".intercalate texts ++ ")"
  | array shape entries => do return ArrayText.text shape (← asEntries entries)
  | constraint c => l.constraint c
  | model m => some (l.model m)

def asTexts : List (Operand Number Float) → Option (List String)
  | [] => some []
  | o :: os => do
    let first ← asText o
    return first :: (← asTexts os)

/-- The texts of the entries of an array, among which a list is marked as one. -/
def asEntries : List (Operand Number Float) → Option (List (List Char))
  | [] => some []
  | o :: os => do
    let first ← asText o
    let first := match o with
      | list _ => "list(" ++ first ++ ")"
      | _ => first
    return first.toList :: (← asEntries os)

end

end Operand

/-- The message of an error; operands that do not go together and numbers out of range have none. -/
def ExpressionError.message? : ExpressionError → Option String
  | unsupported => none
  | notAffine kind => some s!"cannot convert {kind} to an affine expression"
  | degree => some "products of degree greater than two are not supported"
  | nonlinearArgument kind => some s!"unsupported nonlinear argument of type {kind}"
  | unknownOperator head => some s!"unsupported nonlinear operator '{head}'"
  | arity head expected given =>
    some s!"operator '{head}' expects {expected} argument(s), got {given}"
  | divisionByZero => none
  | shapes => none
  | tooLong => none
  | number _ => none

end MathProg
