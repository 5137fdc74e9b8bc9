import MathProg.Function.Operator
import MathProg.Number.Arithmetic

/-!
# Checked arithmetic

Arithmetic that refuses what has no finite answer, where the operators of functions would give an
infinite one: a division by zero, a logarithm of zero, an exponential out of range. It works on
values `V` that coefficients `K` and written numbers `N` are part of.
-/

namespace MathProg

/-- How a coefficient lies to the finite ones. -/
inductive Extent where
  | finite
  | belowAll
  | aboveAll
  | undefined
deriving DecidableEq, Repr

class CheckedArithmetic (N K : Type) (V : outParam Type) where
  ofCoefficient : K → V
  ofNumber : N → V
  ofNat : Nat → V
  ofComplex : Complex → V
  /-- The value as a written number, or else as the complex number that it is. -/
  parts : V → Sum N Complex
  /-- The value as a coefficient. -/
  toCoefficient : V → Except ArithmeticError K
  /-- Whether the value is the number. -/
  isNat : V → Nat → Bool
  neg : V → V
  apply : ArithmeticOp → V → V → Except ArithmeticError V
  /-- The value of a function of one argument. -/
  call : Operator → V → Except ArithmeticError V
  extent : K → Extent

namespace FloatArithmetic

def extent (x : Float) : Extent :=
  match Binary64.decode x with
  | .finite _ _ _ => .finite
  | .infinite negative => if negative then .belowAll else .aboveAll
  | .notANumber => .undefined

/-- The value of a function of one argument, which must be finite for a sine or a cosine, positive
for a logarithm and not negative for a root. -/
def call (op : Operator) (x : Float) : Except ArithmeticError Float :=
  match op with
  | .sin => if x.isInf then .error .domain else .ok x.sin
  | .cos => if x.isInf then .error .domain else .ok x.cos
  | .exp => if x.exp.isInf && !x.isInf then .error .overflow else .ok x.exp
  | .log => if x ≤ 0.0 then .error .domain else .ok x.log
  | .sqrt => if x < 0.0 then .error .domain else .ok x.sqrt
  | _ => .ok x.abs

end FloatArithmetic

namespace Quantity

def isNat (q : Quantity) (n : Nat) : Bool :=
  match q with
  | number m => m == .integer n
  | complex z => z.re == n.toFloat && z.im == 0.0

def parts : Quantity → Sum Number Complex
  | number n => .inl n
  | complex z => .inr z

/-- The value as a float, which only a real number has. -/
def toFloat : Quantity → Except ArithmeticError Float
  | number n => n.operand
  | complex _ => .error .complexOperand

/-- The absolute value, an integer for an integer. That of a finite complex number must be finite.
-/
def abs : Quantity → Except ArithmeticError Quantity
  | number (.integer n) => .ok (number (.integer n.natAbs))
  | number (.real x) => .ok (number (.real x.abs))
  | complex z =>
    let size := z.abs
    if size.isInf && !z.re.isInf && !z.im.isInf then .error .overflow
    else .ok (number (.real size))

/-- The logarithm of a natural number, which may lie beyond the floats. -/
def logNat (n : Nat) : Float :=
  match Binary64.ofInt? n with
  | some x => x.log
  | none =>
    let digits := n.log2 + 1
    (Binary64.ofRatio false n (pow2 digits)).log + Float.log 2.0 * Float.ofNat digits

/-- The value of a function. Beyond the floats an integer has an absolute value and a logarithm. -/
def call (op : Operator) (q : Quantity) : Except ArithmeticError Quantity :=
  match op, q with
  | .abs, q => q.abs
  | .log, number (.integer n) =>
    if 0 < n then .ok (number (.real (logNat n.toNat))) else .error .domain
  | op, q => do return number (.real (← FloatArithmetic.call op (← q.toFloat)))

end Quantity

instance : CheckedArithmetic Number Float Quantity where
  ofCoefficient x := .number (.real x)
  ofNumber := .number
  ofNat n := .number (.integer n)
  ofComplex := .complex
  parts := Quantity.parts
  toCoefficient := Quantity.toFloat
  isNat := Quantity.isNat
  neg := Quantity.neg
  apply := Quantity.apply
  call := Quantity.call
  extent := FloatArithmetic.extent

end MathProg
