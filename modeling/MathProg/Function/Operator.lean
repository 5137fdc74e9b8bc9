import MathProg.Number.Summation

/-!
# Operators of nonlinear functions

Eleven operators, named by their heads. Sum and product take any number of arguments, the minus sign
one or two. Values follow the floats: a division by zero is infinite and a logarithm of a negative
number is not a number.
-/

namespace MathProg

/-- The operators of nonlinear expressions. -/
inductive Operator where
  | sum
  | minus
  | product
  | quotient
  | power
  | sin
  | cos
  | exp
  | log
  | sqrt
  | abs
deriving DecidableEq, Repr

/-- Why an operator gives no value. -/
inductive OperatorError where
  /-- No operator has the head. -/
  | unknownHead
  /-- The number of arguments does not fit. -/
  | arity
  /-- The lengths of vectors do not fit together. -/
  | lengths
  /-- Something else than one number comes out. -/
  | notSingle
deriving DecidableEq, Repr

namespace Operator

def all : List Operator :=
  [sum, minus, product, quotient, power, sin, cos, exp, log, sqrt, abs]

def head : Operator → String
  | sum => "+"
  | minus => "-"
  | product => "*"
  | quotient => "/"
  | power => "^"
  | sin => "sin"
  | cos => "cos"
  | exp => "exp"
  | log => "log"
  | sqrt => "sqrt"
  | abs => "abs"

def ofHead? (head : String) : Option Operator :=
  all.find? (fun op => op.head == head)

/-- The number of arguments that an expression must give, if it is fixed. -/
def arity? : Operator → Option Nat
  | sum | minus | product => none
  | quotient | power => some 2
  | sin | cos | exp | log | sqrt | abs => some 1

/-- Whether floats settle the value of the operator to the last digit. Sine, cosine, exponential,
logarithm and power may differ there. -/
def isExact : Operator → Bool
  | power | sin | cos | exp | log => false
  | sum | minus | product | quotient | sqrt | abs => true

end Operator

/-- Numbers with the functions that operators stand for. -/
class ElementaryFunctions (K : Type) where
  power : K → K → K
  sin : K → K
  cos : K → K
  exp : K → K
  log : K → K
  sqrt : K → K
  abs : K → K

instance : ElementaryFunctions Float where
  power := Float.pow
  sin := Float.sin
  cos := Float.cos
  exp := Float.exp
  log := Float.log
  sqrt := Float.sqrt
  abs := Float.abs

namespace Operator

section

variable {K : Type} [Zero K] [One K] [Add K] [Sub K] [Mul K] [Neg K] [Div K]
variable [ElementaryFunctions K]

/-- The value of an operator. -/
def applyNumbers (op : Operator) (args : List K) : Except OperatorError K :=
  match op, args with
  | sum, xs => .ok (0 + Summation.pairwise xs)
  | product, xs => .ok (xs.foldl (· * ·) 1)
  | minus, [x] => .ok (-x)
  | minus, [x, y] => .ok (x - y)
  | quotient, [x, y] => .ok (x / y)
  | power, [x, y] => .ok (ElementaryFunctions.power x y)
  | sin, [x] => .ok (ElementaryFunctions.sin x)
  | cos, [x] => .ok (ElementaryFunctions.cos x)
  | exp, [x] => .ok (ElementaryFunctions.exp x)
  | log, [x] => .ok (ElementaryFunctions.log x)
  | sqrt, [x] => .ok (ElementaryFunctions.sqrt x)
  | abs, [x] => .ok (ElementaryFunctions.abs x)
  | _, _ => .error .arity

end

/-- The value of an operator in floats. -/
def applyFloat (op : Operator) (args : List Float) : Except OperatorError Float :=
  op.applyNumbers args

end Operator

/-- Whether the operator with the given head is exact; a head without an operator has no value. -/
def Operator.isExactHead (head : String) : Bool :=
  (ofHead? head).all isExact

/-- What the operators mean on coefficients. -/
class OperatorMeaning (K : Type) where
  apply : Operator → List K → Except OperatorError K

instance {K : Type} [Zero K] [One K] [Add K] [Sub K] [Mul K] [Neg K] [Div K]
    [ElementaryFunctions K] : OperatorMeaning K where
  apply := Operator.applyNumbers

end MathProg
