import MathProg.Number.FloatText
import MathProg.Number.FloorDivision

/-!
# Numbers

A number is an integer of any size or a float. They compare by value, so the integer 3 and the float
3.0 are equal. A `Literal` is a number as it is written, before it is decided what it becomes.

`Numeral N K` relates the numbers `N` that a caller writes to the coefficients `K` that models
compute with. The library runs with `Number` and `Float`; nothing but this class knows it.
-/

namespace MathProg

/-- Why a number cannot be converted. -/
inductive NumberError where
  /-- An integer beyond the finite floats. -/
  | tooLarge
  /-- An infinite float where an integer is needed. -/
  | infinite
  /-- Not a number where an integer is needed. -/
  | notANumber
deriving DecidableEq, Repr

/-- An unsigned number as it is written: an integer or `digits · 10 ^ exponent`. -/
inductive Literal where
  | integer (n : Nat)
  | decimal (digits : Nat) (exponent : Int)
deriving DecidableEq, Repr

/-- An integer of any size or a float. -/
inductive Number where
  | integer (n : Int)
  | real (x : Float)

/-- The float nearest to an integer. -/
def floatOfInt (n : Int) : Except NumberError Float :=
  match Binary64.ofInt? n with
  | some x => .ok x
  | none => .error .tooLarge

namespace Number

def toFloat : Number → Except NumberError Float
  | integer n => floatOfInt n
  | real x => .ok x

/-- The integer part, toward zero. -/
def truncate : Number → Except NumberError Int
  | integer n => .ok n
  | real x =>
    match Binary64.decode x with
    | .notANumber => .error .notANumber
    | .infinite _ => .error .infinite
    | .finite negative m e => .ok (Binary64.truncate negative m e)

def text : Number → String
  | integer n => toString n
  | real x => FloatText.shortest x

def isZero : Number → Bool
  | integer n => n == 0
  | real x => x == 0.0

/-- How the exact value of a float compares with an integer, if the float is a number. -/
def compareReal (x : Float) (n : Int) : Option Ordering :=
  match Binary64.decode x with
  | .notANumber => none
  | .infinite negative => some (if negative then .lt else .gt)
  | .finite negative m e =>
    let (up, down) := Binary64.scaleByTwo e
    some (compare (if negative then -(m * up : Int) else m * up) (n * down))

/-- Equality of values across integers and floats. -/
instance : BEq Number where
  beq
    | integer m, integer n => m == n
    | real x, real y => x == y
    | real x, integer n => compareReal x n == some .eq
    | integer n, real x => compareReal x n == some .eq

/-- The order of values across integers and floats; a float that is not a number has no place. -/
def le : Number → Number → Bool
  | integer m, integer n => m ≤ n
  | real x, real y => x ≤ y
  | real x, integer n => (compareReal x n).any Ordering.isLE
  | integer n, real x => (compareReal x n).any Ordering.isGE

def ofLiteral : Literal → Number
  | .integer n => integer n
  | .decimal digits exponent => real (Binary64.ofDecimal false digits exponent)

end Number

/-- Coefficients that are read from text: the value of a literal, and the integer part where a
number stands for a size. -/
class TextNumber (K : Type) where
  ofLiteral : Literal → Except NumberError K
  truncate : K → Except NumberError Int

instance : TextNumber Float where
  ofLiteral l := (Number.ofLiteral l).toFloat
  truncate x := (Number.real x).truncate

/-- Numbers `N` that callers write, with their conversion to coefficients `K`. -/
class Numeral (N : Type) (K : outParam Type) where
  toCoefficient : N → Except NumberError K
  ofCoefficient : K → N
  sub : N → N → Except NumberError N
  neg : N → N
  /-- Whether the value of the number is the integer. -/
  isInt : N → Int → Bool
  /-- Whether the value of the first number is at most that of the second. -/
  le : N → N → Bool
  square : N → N
  /-- Half the product with the successor, rounded down. -/
  triangular : N → N
  /-- The integer, if the number is written as one. -/
  integer? : N → Option Int
  ofInt : Int → N
  /-- The name of the kind of number. -/
  kindName : N → String
  text : N → String

/-- The difference of two numbers, an integer only if both are. -/
def Number.sub : Number → Number → Except NumberError Number
  | integer m, integer n => .ok (integer (m - n))
  | a, b => do return real ((← a.toFloat) - (← b.toFloat))

def Number.neg : Number → Number
  | integer n => integer (-n)
  | real x => real (-x)

def Number.square : Number → Number
  | integer n => integer (n * n)
  | real x => real (x * x)

def Number.triangular : Number → Number
  | integer n => integer (n * (n + 1) / 2)
  | real x => real (FloatArithmetic.floorDiv (x * (x + 1.0)) 2.0)

def Number.integer? : Number → Option Int
  | integer n => some n
  | real _ => none

def Number.kindName : Number → String
  | integer _ => "int"
  | real _ => "float"

instance : Numeral Number Float where
  toCoefficient := Number.toFloat
  ofCoefficient := Number.real
  sub := Number.sub
  neg := Number.neg
  isInt a n := a == Number.integer n
  le := Number.le
  square := Number.square
  triangular := Number.triangular
  integer? := Number.integer?
  ofInt := Number.integer
  kindName := Number.kindName
  text := Number.text

end MathProg
