import MathProg.Formula.Tree
import MathProg.Function.Basic

/-!
# Polynomials of formulas

A formula with sums, differences and products of numbers and variables is a polynomial of degree at
most two. Its monomials stand in the order of their first arrival, and a monomial whose coefficient
has become zero still counts for the degree of a product.
-/

namespace MathProg.Formula

/-- A product of at most two variables. -/
inductive Monomial where
  | one
  | linear (v : Nat)
  | pair (p : VariablePair)
deriving DecidableEq, Repr

/-- The product of two monomials; `none` if its degree is above two. -/
def Monomial.mul? : Monomial → Monomial → Option Monomial
  | .one, m => some m
  | m, .one => some m
  | .linear v, .linear w => some (.pair (.of v w))
  | _, _ => none

/-- Why a formula is no polynomial. -/
inductive FormulaError where
  /-- A number that no coefficient holds. -/
  | number (e : NumberError)
  | nonNumericConstant
  | unknownVariable (name : String)
  | operatorNotAllowed
  | unaryOperatorNotAllowed
  | unsupported
  | degree
deriving DecidableEq, Repr

/-- The position of a name; the last one counts where a name occurs twice. -/
def position? (names : List String) (name : String) : Option Nat :=
  match names with
  | [] => none
  | n :: rest =>
    match position? rest name with
    | some i => some (i + 1)
    | none => if n == name then some 0 else none

def position (names : List String) (name : String) : Except FormulaError Nat :=
  match position? names name with
  | some v => .ok v
  | none => .error (.unknownVariable name)

/-- A sum of monomials with coefficients. -/
abbrev Polynomial (K : Type) := List (Monomial × K)

namespace Polynomial

variable {K : Type} [Zero K] [One K] [Add K] [Mul K] [Neg K]

def constant (c : K) : Polynomial K :=
  [(.one, c)]

def ofVariable (v : Nat) : Polynomial K :=
  [(.linear v, 1)]

def add (p q : Polynomial K) : Polynomial K :=
  Terms.addAll p q

def neg (p : Polynomial K) : Polynomial K :=
  Terms.mapCoefficients (fun c => -c) p

def sub (p q : Polynomial K) : Polynomial K :=
  p.add q.neg

/-- The product, the left polynomial being the outer loop; `none` if its degree is above two. -/
def mul? (p q : Polynomial K) : Option (Polynomial K) :=
  p.foldlM (fun sum (m, c) =>
    q.foldlM (fun sum (n, d) => (m.mul? n).map (fun k => Terms.add k (c * d) sum)) sum) []

/-- The polynomial of a formula over the named variables. Both operands are read before their
operator is looked at. -/
def ofTree [TextNumber K] (names : List String) : Tree → Except FormulaError (Polynomial K)
  | .number l =>
    match TextNumber.ofLiteral l with
    | .ok c => .ok (constant c)
    | .error e => .error (.number e)
  | .constant => .error .nonNumericConstant
  | .name id => do return ofVariable (← position names id)
  | .binary op left right => do
    let p ← ofTree names left
    let q ← ofTree names right
    match op with
    | .add => return p.add q
    | .sub => return p.sub q
    | .mul =>
      match p.mul? q with
      | some r => return r
      | none => .error .degree
    | _ => .error .operatorNotAllowed
  | .unary op operand => do
    let p ← ofTree names operand
    match op with
    | .minus => return p.neg
    | .plus => return p
    | _ => .error .unaryOperatorNotAllowed
  | _ => .error .unsupported

/-- The coefficient of the constant monomial. -/
def constantTerm (p : Polynomial K) : K :=
  Terms.coefficient .one p

/-- The canonical function of a polynomial. -/
def toFunction [BEq K] (p : Polynomial K) : Function K :=
  Function.canonicalQuadratic
    (p.filterMap (fun | (.pair q, c) => some (q, c) | _ => none))
    (p.filterMap (fun | (.linear v, c) => some (v, c) | _ => none))
    p.constantTerm

end Polynomial

end MathProg.Formula
