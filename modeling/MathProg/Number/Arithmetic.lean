import MathProg.Number.Basic
import MathProg.Number.Complex

/-!
# Arithmetic on numbers

The seven operators on integers, floats and complex numbers. Two integers give an integer, but their
quotient is a float, as is a power with a negative exponent. A mixed operation works on floats.
Division and remainder round toward negative infinity. A negative number to a fraction is complex.
-/

namespace MathProg

/-- A result of arithmetic: a number, or a complex number that nothing can round back. -/
inductive Quantity where
  | number (n : Number)
  | complex (z : Complex)

/-- Why an operation has no result. -/
inductive ArithmeticError where
  | divisionByZero
  | overflow
  /-- A complex number where only a real one will do. -/
  | complexOperand
  /-- A function outside its domain. -/
  | domain
deriving DecidableEq, Repr

/-- The operators of arithmetic. -/
inductive ArithmeticOp where
  | add
  | sub
  | mul
  | div
  | floorDiv
  | mod
  | pow
deriving DecidableEq, Repr

namespace FloatArithmetic

/-- Whether a float is an odd integer. -/
def isOdd (x : Float) : Bool :=
  match Binary64.decode x with
  | .finite _ m e =>
    if 0 < e then false
    else m % pow2 (-e).toNat = 0 && m / pow2 (-e).toNat % 2 = 1
  | _ => false

/-- The power of two floats. A power of zero with a negative exponent divides by zero, a negative
base with a fraction as exponent is complex, and an infinite power of finite numbers overflows. -/
def pow (x y : Float) : Except ArithmeticError Quantity :=
  let real (r : Float) : Except ArithmeticError Quantity := .ok (.number (.real r))
  if y == 0.0 then real 1.0
  else if x.isNaN then real x
  else if y.isNaN then real (if x == 1.0 then 1.0 else y)
  else if y.isInf then
    if x.abs == 1.0 then real 1.0
    else real (if (y > 0.0) == (x.abs > 1.0) then y.abs else 0.0)
  else if x.isInf then
    if y > 0.0 then real (if isOdd y then x else x.abs)
    else real (if isOdd y then Binary64.withSign (x < 0.0) 0.0 else 0.0)
  else if x == 0.0 then
    if y < 0.0 then .error .divisionByZero
    else real (if isOdd y then x else 0.0)
  else if x < 0.0 && y != y.floor then
    match Complex.pow (.ofFloat x) (.ofFloat y) with
    | .ok z => .ok (.complex z)
    | .error .divisionByZero => .error .divisionByZero
    | .error .overflow => .error .overflow
  else
    let size := Float.pow x.abs y
    if size.isInf then .error .overflow
    else real (if x < 0.0 && isOdd y then -size else size)

end FloatArithmetic

namespace Number

/-- A number as a float operand. -/
def operand (a : Number) : Except ArithmeticError Float :=
  match a.toFloat with
  | .ok x => .ok x
  | .error _ => .error .overflow

/-- The quotient of two integers, rounded once. Zero over a negative integer is negative zero. -/
def divInt (m n : Int) : Except ArithmeticError Float :=
  if n = 0 then .error .divisionByZero
  else
    let x := Binary64.ofRatio ((m < 0) != (n < 0)) m.natAbs n.natAbs
    if x.isInf then .error .overflow else .ok x

/-- The power of an integer. A power of zero, one or minus one is found at once; of any other
integer an exponent of more than 32 bits makes a number that is too large to be held. -/
def powInt (m : Int) (n : Nat) : Except ArithmeticError Int :=
  if n = 0 || m = 1 then .ok 1
  else if m = 0 then .ok 0
  else if m = -1 then .ok (if n % 2 = 0 then 1 else -1)
  else if n < pow2 32 then .ok (Int.pow m n)
  else .error .overflow

def applyInt (op : ArithmeticOp) (m n : Int) : Except ArithmeticError Quantity :=
  let whole (k : Int) : Except ArithmeticError Quantity := .ok (.number (.integer k))
  match op with
  | .add => whole (m + n)
  | .sub => whole (m - n)
  | .mul => whole (m * n)
  | .div => do return .number (.real (← divInt m n))
  | .floorDiv => if n = 0 then .error .divisionByZero else whole (m.fdiv n)
  | .mod => if n = 0 then .error .divisionByZero else whole (m.fmod n)
  | .pow =>
    if 0 ≤ n then do whole (← powInt m n.toNat)
    else do FloatArithmetic.pow (← operand (.integer m)) (← operand (.integer n))

def applyFloat (op : ArithmeticOp) (x y : Float) : Except ArithmeticError Quantity :=
  let real (r : Float) : Except ArithmeticError Quantity := .ok (.number (.real r))
  match op with
  | .add => real (x + y)
  | .sub => real (x - y)
  | .mul => real (x * y)
  | .div => if y == 0.0 then .error .divisionByZero else real (x / y)
  | .floorDiv => if y == 0.0 then .error .divisionByZero else real (FloatArithmetic.floorDiv x y)
  | .mod => if y == 0.0 then .error .divisionByZero else real (FloatArithmetic.mod x y)
  | .pow => FloatArithmetic.pow x y

def apply (op : ArithmeticOp) : Number → Number → Except ArithmeticError Quantity
  | integer m, integer n => applyInt op m n
  | a, b => do
    let x ← a.operand
    let y ← b.operand
    applyFloat op x y

end Number

namespace Quantity

def neg : Quantity → Quantity
  | number n => number n.neg
  | complex z => complex (-z)

def toComplex : Quantity → Except ArithmeticError Complex
  | number n => do return .ofFloat (← n.operand)
  | complex z => .ok z

def ofComplexResult : Except ComplexError Complex → Except ArithmeticError Quantity
  | .ok z => .ok (complex z)
  | .error .divisionByZero => .error .divisionByZero
  | .error .overflow => .error .overflow

/-- Applies an operator; one complex operand makes the other one complex. -/
def apply (op : ArithmeticOp) : Quantity → Quantity → Except ArithmeticError Quantity
  | number a, number b => Number.apply op a b
  | p, q => do
    match op with
    | .floorDiv | .mod => .error .complexOperand
    | .add => return complex ((← p.toComplex) + (← q.toComplex))
    | .sub => return complex ((← p.toComplex) - (← q.toComplex))
    | .mul => return complex ((← p.toComplex) * (← q.toComplex))
    | .div => ofComplexResult (Complex.div (← p.toComplex) (← q.toComplex))
    | .pow => ofComplexResult (Complex.pow (← p.toComplex) (← q.toComplex))

end Quantity

end MathProg
