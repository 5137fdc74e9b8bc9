import MathProg.Number.Basic
import MathProg.Number.Power

/-!
# Constraint sets

A constraint says that a function lies in a set. Scalar sets bound one number or restrict it to
integers, vector sets are cones, and matrix sets hold the positive semidefinite matrices in one of
two layouts. A vector or matrix set may leave its size open until it meets a function. A size is a
number like a bound: one that is no integer fits no function.
-/

namespace MathProg

/-- The cones of vectors. -/
inductive Cone where
  | zeros
  | nonnegatives
  | nonpositives
  /-- `t ≥ ‖x‖` for a vector `(t, x)`. -/
  | secondOrder
  /-- `2 t u ≥ ‖x‖²` with `t` and `u` nonnegative, for a vector `(t, u, x)`. -/
  | rotatedSecondOrder
deriving DecidableEq, Repr

/-- How a square matrix is written as a vector, column by column. -/
inductive MatrixLayout where
  /-- The entries on and above the diagonal. -/
  | triangle
  /-- Every entry. -/
  | square
deriving DecidableEq, Repr

/-- A set with bounds and sizes `N`. -/
inductive ConstraintSet (N : Type) where
  | lessThan (upper : N)
  | greaterThan (lower : N)
  | equalTo (value : N)
  | interval (lower upper : N)
  | integer
  | zeroOne
  | vector (cone : Cone) (dimension : Option N)
  | matrix (layout : MatrixLayout) (side : Option N)

/-- The families of sets that a backend may support. -/
inductive SetFamily where
  | lessThan
  | greaterThan
  | equalTo
  | interval
  | integer
  | zeroOne
  | vector (cone : Cone)
  | matrix (layout : MatrixLayout)
deriving DecidableEq, Repr

/-- How the members of a set look. -/
inductive SetKind where
  | scalar
  | vector
  | matrix (layout : MatrixLayout)
deriving DecidableEq, Repr

/-- Why a function does not fit a set. -/
inductive DimensionError where
  /-- A vector of length `n` in a scalar set. -/
  | scalarSet (family : SetFamily) (n : Int)
  /-- A vector of length `n` where the set has another dimension, which is given as it is shown. -/
  | mismatch (family : SetFamily) (n : Int) (expected : String)
  /-- No triangle of a matrix has `n` entries. -/
  | notTriangular (n : Int)
  /-- No square matrix has `n` entries. -/
  | notSquareNumber (n : Int)
  | negativeLength
  /-- A matrix in a set that holds none. -/
  | noMatrix (family : SetFamily)
  | notSquare
  /-- A matrix of side `n` where the set has another side, which is given as it is shown. -/
  | sideMismatch (family : SetFamily) (n : Int) (expected : String)
deriving DecidableEq, Repr

namespace MatrixLayout

/-- The number of entries that are written for a matrix of the given side. -/
def size : MatrixLayout → Nat → Nat
  | triangle, side => side * (side + 1) / 2
  | square, side => side * side

/-- The number of entries for a side that may be any number. -/
def sizeOf {N K : Type} [Numeral N K] : MatrixLayout → N → N
  | triangle, side => Numeral.triangular side
  | square, side => Numeral.square side

/-- The side of a matrix with `n` written entries. -/
def side? (layout : MatrixLayout) (n : Nat) : Option Nat :=
  let side : Nat :=
    match layout with
    | triangle => squareRoot (2 * n)
    | square => squareRoot n
  if layout.size side = n then some side else none

end MatrixLayout

namespace ConstraintSet

variable {N : Type}

def family : ConstraintSet N → SetFamily
  | .lessThan _ => .lessThan
  | .greaterThan _ => .greaterThan
  | .equalTo _ => .equalTo
  | .interval _ _ => .interval
  | .integer => .integer
  | .zeroOne => .zeroOne
  | .vector cone _ => .vector cone
  | .matrix layout _ => .matrix layout

def kind : ConstraintSet N → SetKind
  | .vector _ _ => .vector
  | .matrix layout _ => .matrix layout
  | _ => .scalar

/-- The length of the functions that the set holds, if it is settled. -/
def dimension? {K : Type} [Numeral N K] : ConstraintSet N → Option N
  | .vector _ dimension => dimension
  | .matrix layout side => side.map layout.sizeOf
  | _ => some (Numeral.ofInt 1)

/-- Equality of sets of one family, bounds and sizes compared as numbers. -/
instance [BEq N] : BEq (ConstraintSet N) where
  beq
    | .lessThan a, .lessThan b => a == b
    | .greaterThan a, .greaterThan b => a == b
    | .equalTo a, .equalTo b => a == b
    | .interval a b, .interval c d => a == c && b == d
    | .integer, .integer => true
    | .zeroOne, .zeroOne => true
    | .vector cone n, .vector cone' n' => cone == cone' && n == n'
    | .matrix layout n, .matrix layout' n' => layout == layout' && n == n'
    | _, _ => false

/-- Whether a constant of the function can be moved into the set. -/
def isShiftable : ConstraintSet N → Bool
  | .lessThan _ => true
  | .greaterThan _ => true
  | .equalTo _ => true
  | .interval _ _ => true
  | _ => false

/-- The set that holds `x` exactly when this one holds `x + c`; a set without bounds is kept. -/
def shifted {K : Type} [Numeral N K] (c : N) :
    ConstraintSet N → Except NumberError (ConstraintSet N)
  | .lessThan upper => do return .lessThan (← Numeral.sub upper c)
  | .greaterThan lower => do return .greaterThan (← Numeral.sub lower c)
  | .equalTo value => do return .equalTo (← Numeral.sub value c)
  | .interval lower upper => do
    return .interval (← Numeral.sub lower c) (← Numeral.sub upper c)
  | s => .ok s

/-- The set with the size of a function of length `n`, if that size is possible. -/
def withDimension {K : Type} [Numeral N K] (s : ConstraintSet N) (n : Int) :
    Except DimensionError (ConstraintSet N) :=
  let checked (expected : N) : Except DimensionError (ConstraintSet N) :=
    if Numeral.isInt expected n then .ok s
    else .error (.mismatch s.family n (Numeral.text expected))
  match s with
  | .vector cone none => .ok (.vector cone (some (Numeral.ofInt n)))
  | .vector _ (some expected) => checked expected
  | .matrix layout (some side) => checked (layout.sizeOf side)
  | .matrix layout none =>
    if n < 0 then .error .negativeLength
    else
      match layout.side? n.toNat with
      | some side => .ok (.matrix layout (some (Numeral.ofInt side)))
      | none =>
        match layout with
        | .triangle => .error (.notTriangular n)
        | .square => .error (.notSquareNumber n)
  | _ => if n = 1 then .ok s else .error (.scalarSet s.family n)

end ConstraintSet

end MathProg
