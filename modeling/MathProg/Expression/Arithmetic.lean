import MathProg.Expression.Basic

/-!
# Arithmetic on expressions

Sums, differences and products of affine and quadratic expressions are computed at once, a number
being an affine expression without terms. Products of degree above two are refused. As soon as an
operand is nonlinear, the result is a node of the operator over the operands as they are. Quotients
need a number as divisor, powers a number as exponent; a square is a product and any other power of
an affine expression a node.
-/

namespace MathProg

/-- Why an operator has no result. -/
inductive ExpressionError where
  /-- The operands do not go together. -/
  | unsupported
  /-- An operand of the named kind is no affine expression. -/
  | notAffine (kind : String)
  /-- A product of degree above two. -/
  | degree
  /-- An operand of the named kind is no argument of a nonlinear operator. -/
  | nonlinearArgument (kind : String)
  | unknownOperator (head : String)
  | arity (head : String) (expected given : Nat)
  | divisionByZero
  /-- Arrays of shapes that do not go together. -/
  | shapes
  /-- A sequence that is too long to be held. -/
  | tooLong
  | number (e : NumberError)
deriving DecidableEq, Repr

/-- The signs between two expressions. -/
inductive Sign where
  | add
  | sub
  | mul
  | div
  | pow
deriving DecidableEq, Repr

namespace Sign

def text : Sign → String
  | add => "+"
  | sub => "-"
  | mul => "*"
  | div => "/"
  | pow => "**"

def ofText? (text : String) : Option Sign :=
  [add, sub, mul, div, pow].find? (fun sign => sign.text == text)

end Sign

variable {N K : Type} [Zero K] [One K] [Add K] [Mul K] [Neg K]

namespace LinearExpr

def addConstant (e : LinearExpr K) (c : K) : LinearExpr K :=
  ofTerms e.terms (e.constant + c)

def add (e f : LinearExpr K) : LinearExpr K :=
  ⟨Terms.addAll (Terms.addAll [] e.terms) f.terms, e.constant + f.constant⟩

def neg (e : LinearExpr K) : LinearExpr K :=
  ofTerms (Terms.mapCoefficients (fun c => -c) e.terms) (-e.constant)

def sub (e f : LinearExpr K) : LinearExpr K :=
  e.add f.copy.neg

def scale (k : K) (e : LinearExpr K) : LinearExpr K :=
  ofTerms (Terms.mapCoefficients (fun c => k * c) e.terms) (k * e.constant)

/-- The products of all terms. -/
def mulTerms (e f : LinearExpr K) : List (ReferencePair × K) :=
  e.terms.foldl (fun sum (v, c) =>
    f.terms.foldl (fun sum (w, d) => Terms.add (.of v w) (c * d) sum) sum) []

def mul (e f : LinearExpr K) : QuadraticExpr K :=
  let left := Terms.addAll [] (Terms.mapCoefficients (fun c => e.constant * c) f.terms)
  let both := Terms.addAll left (Terms.mapCoefficients (fun c => f.constant * c) e.terms)
  ⟨e.mulTerms f, ⟨both, e.constant * f.constant⟩⟩

end LinearExpr

namespace QuadraticExpr

def addLinear (e : QuadraticExpr K) (f : LinearExpr K) : QuadraticExpr K :=
  ofPairs e.pairs (e.linear.add f)

def addConstant (e : QuadraticExpr K) (c : K) : QuadraticExpr K :=
  ofPairs e.pairs (e.linear.addConstant c)

def add (e f : QuadraticExpr K) : QuadraticExpr K :=
  ⟨Terms.addAll (Terms.addAll [] e.pairs) f.pairs, (e.linear.add f.linear).copy⟩

def scale (k : K) (e : QuadraticExpr K) : QuadraticExpr K :=
  ofPairs (Terms.mapCoefficients (fun c => k * c) e.pairs) (e.linear.scale k)

def neg (e : QuadraticExpr K) : QuadraticExpr K :=
  e.scale (-1)

def sub (e f : QuadraticExpr K) : QuadraticExpr K :=
  e.add f.copy.neg

end QuadraticExpr

namespace Expression

variable [Numeral N K]

def coefficient (n : N) : Except ExpressionError K :=
  (Numeral.toCoefficient n).mapError .number

/-- What an operand is to arithmetic. -/
inductive Degree (N K : Type) where
  | number (n : N)
  | linear (e : LinearExpr K)
  | quadratic (e : QuadraticExpr K)
  | nonlinear

/-- A variable counts as an affine expression. -/
def degree : Expression N K → Degree N K
  | .number n => .number n
  | .var v => .linear (.ofVariable v)
  | .linear e => .linear e
  | .quadratic e => .quadratic e
  | .nonlinear _ _ => .nonlinear

/-- The operand as the left argument of a node: a variable has become an affine expression. -/
def promoted : Expression N K → Expression N K
  | .var v => .linear (.ofVariable v)
  | e => e

/-- A node of a binary operator. A left variable counts as an affine expression. -/
def node (op : Operator) (e f : Expression N K) : Expression N K :=
  .nonlinear op [e.promoted, f]

def add (e f : Expression N K) : Except ExpressionError (Expression N K) :=
  match e.degree, f.degree with
  | .nonlinear, _ => .ok (node .sum e f)
  | _, .nonlinear => .ok (node .sum e f)
  | .number m, .number n => do
    return .linear ((LinearExpr.ofConstant (← coefficient m)).addConstant (← coefficient n))
  | .number n, .linear b => do return .linear (b.addConstant (← coefficient n))
  | .number n, .quadratic b => do return .quadratic (b.addConstant (← coefficient n))
  | .linear a, .number n => do return .linear (a.addConstant (← coefficient n))
  | .linear a, .linear b => .ok (.linear (a.add b))
  | .linear a, .quadratic b => .ok (.quadratic (b.addLinear a))
  | .quadratic a, .number n => do return .quadratic (a.addConstant (← coefficient n))
  | .quadratic a, .linear b => .ok (.quadratic (a.addLinear b))
  | .quadratic a, .quadratic b => .ok (.quadratic (a.add b))

def sub (e f : Expression N K) : Except ExpressionError (Expression N K) :=
  match e.degree, f.degree with
  | .nonlinear, _ => .ok (node .minus e f)
  | _, .nonlinear => .ok (node .minus e f)
  | .number m, .number n => do
    let a := LinearExpr.ofConstant (← coefficient m)
    return .linear (a.sub (.ofConstant (← coefficient n)))
  | .number n, .linear b => do return .linear (b.neg.addConstant (← coefficient n))
  | .number n, .quadratic b => do return .quadratic (b.neg.addConstant (← coefficient n))
  | .linear a, .number n => do return .linear (a.sub (.ofConstant (← coefficient n)))
  | .linear a, .linear b => .ok (.linear (a.sub b))
  | .linear a, .quadratic b => .ok (.quadratic (b.neg.addLinear a))
  | .quadratic a, .number n => do
    return .quadratic (a.sub (.ofLinear (.ofConstant (← coefficient n))))
  | .quadratic a, .linear b => .ok (.quadratic (a.sub (.ofLinear b)))
  | .quadratic a, .quadratic b => .ok (.quadratic (a.sub b))

/-- A product with a quadratic expression, whose other factor must have no terms. -/
def mulQuadratic (a : LinearExpr K) (b : QuadraticExpr K) :
    Except ExpressionError (Expression N K) :=
  if a.terms.isEmpty then .ok (.quadratic (b.scale a.constant)) else .error .degree

def mul (e f : Expression N K) : Except ExpressionError (Expression N K) :=
  match e.degree, f.degree with
  | .nonlinear, _ => .ok (node .product e f)
  | _, .nonlinear => .ok (node .product e f)
  | .number m, .number n => do
    return .linear ((LinearExpr.ofConstant (← coefficient m)).scale (← coefficient n))
  | .number n, .linear b => do return .linear (b.scale (← coefficient n))
  | .number n, .quadratic b => do return .quadratic (b.scale (← coefficient n))
  | .linear a, .number n => do return .linear (a.scale (← coefficient n))
  | .linear a, .linear b => .ok (.quadratic (a.mul b))
  | .linear a, .quadratic b => mulQuadratic a b
  | .quadratic a, .number n => do return .quadratic (a.scale (← coefficient n))
  | .quadratic a, .linear b => mulQuadratic b a
  | .quadratic _, .quadratic _ => .error .degree

/-- One divided by a number. -/
def inverse [Div K] [BEq K] (n : N) : Except ExpressionError K := do
  let c ← coefficient n
  if c == 0 then .error .divisionByZero else return 1 / c

def div [Div K] [BEq K] (e f : Expression N K) : Except ExpressionError (Expression N K) :=
  match e.degree, f.degree with
  | .nonlinear, _ => .ok (node .quotient e f)
  | .linear a, .number n => do return .linear (a.scale (← inverse n))
  | .quadratic a, .number n => do return .quadratic (a.scale (← inverse n))
  | _, _ => .error .unsupported

def pow (e f : Expression N K) : Except ExpressionError (Expression N K) :=
  match e.degree, f.degree with
  | .nonlinear, _ => .ok (node .power e f)
  | .linear a, .number n =>
    if Numeral.isInt n 2 then .ok (.quadratic (a.mul a))
    else if Numeral.isInt n 1 then .ok (.linear a.copy)
    else .ok (node .power e f)
  | _, _ => .error .unsupported

def neg (e : Expression N K) : Expression N K :=
  match e with
  | .number n => .number (Numeral.neg n)
  | .var v => .linear (LinearExpr.ofVariable v).neg
  | .linear a => .linear a.neg
  | .quadratic a => .quadratic a.neg
  | .nonlinear op args => .nonlinear .minus [.nonlinear op args]

/-- The result of a sign between two expressions. -/
def apply [Div K] [BEq K] (sign : Sign) (e f : Expression N K) :
    Except ExpressionError (Expression N K) :=
  match sign with
  | .add => e.add f
  | .sub => e.sub f
  | .mul => e.mul f
  | .div => e.div f
  | .pow => e.pow f

/-- The expression as an affine one. -/
def toLinear (e : Expression N K) : Except ExpressionError (LinearExpr K) :=
  match e with
  | .number n => do return .ofConstant (← coefficient n)
  | .var v => .ok (.ofVariable v)
  | .linear a => .ok a.copy
  | .quadratic _ => .error (.notAffine "QuadExpr")
  | .nonlinear _ _ => .error (.notAffine "NonlinearExpr")

/-- The expression as a quadratic one. -/
def toQuadratic (e : Expression N K) : Except ExpressionError (QuadraticExpr K) :=
  match e with
  | .quadratic a => .ok a.copy
  | e => do return .ofLinear (← e.toLinear)

end Expression

end MathProg
