import MathProg.Config.Data
import MathProg.Formula.Grammar

/-!
# Arithmetic in configuration texts

A text such as `5 * 60` or `limit / threads` is a formula over named numbers. It is evaluated from
the left. An operator that has no place in arithmetic is refused before its operands are read.
-/

namespace MathProg

open Formula (Tree)

/-- Why a text has no value. -/
inductive EvaluationError where
  | syntaxFault (e : Formula.SyntaxFault)
  | nonNumericConstant
  | unknownName (name : String)
  | notNumeric (name : String) (value : Data)
  | operatorNotAllowed
  | unaryOperatorNotAllowed
  | unsupported
  | arithmetic (e : ArithmeticError)

namespace EvaluationError

/-- The message of an error; a fault of the text or of arithmetic has none. -/
def message? : EvaluationError → Option String
  | syntaxFault _ => none
  | nonNumericConstant => some "non-numeric constant in expression"
  | unknownName name => some s!"unknown name '{name}' in expression"
  | notNumeric name value =>
    let shown := value.toText
    some s!"name '{name}' is not numeric: {shown}"
  | operatorNotAllowed => some "operator not allowed in expression"
  | unaryOperatorNotAllowed => some "unary operator not allowed in expression"
  | unsupported => some "unsupported syntax in expression"
  | arithmetic _ => none

/-- Whether the error only says that the text is no formula with a value. -/
def isHarmless : EvaluationError → Bool
  | arithmetic .overflow => false
  | arithmetic .complexOperand => false
  | _ => true

end EvaluationError

namespace Formula

def BinaryOp.arithmetic? : BinaryOp → Option ArithmeticOp
  | add => some .add
  | sub => some .sub
  | mul => some .mul
  | div => some .div
  | floorDiv => some .floorDiv
  | mod => some .mod
  | pow => some .pow
  | _ => none

/-- The value of a formula over named numbers. -/
def Tree.value (names : Table) : Tree → Except EvaluationError Quantity
  | .number l => .ok (.number (.ofLiteral l))
  | .constant => .error .nonNumericConstant
  | .name id =>
    match names.get? id with
    | none => .error (.unknownName id)
    | some d =>
      match d.number? with
      | some n => .ok (.number n)
      | none => .error (.notNumeric id d)
  | .binary op left right =>
    match op.arithmetic? with
    | none => .error .operatorNotAllowed
    | some op => do
      let x ← left.value names
      let y ← right.value names
      (x.apply op y).mapError .arithmetic
  | .unary op operand =>
    match op with
    | .plus => operand.value names
    | .minus => do return (← operand.value names).neg
    | _ => .error .unaryOperatorNotAllowed
  | _ => .error .unsupported

/-- The value of a text. -/
def evaluate (names : Table) (s : List Char) : Except EvaluationError Quantity := do
  (← (read s).mapError .syntaxFault).value names

end Formula

end MathProg
