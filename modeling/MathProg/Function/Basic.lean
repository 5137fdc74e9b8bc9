import MathProg.Function.Operator
import MathProg.Terms

/-!
# Functions

The functions that a backend receives. Variables are integers: positions in a representation, and
numbers of the backend once loaded. A canonical function has its terms merged and sorted and holds
no zero coefficient, so that functions built in different orders are equal.
-/

namespace MathProg

/-- A pair of variables, the smaller first. -/
structure VariablePair where
  first : Int
  second : Int
deriving DecidableEq, Repr

namespace VariablePair

/-- The pair of two variables in either order. -/
def of (i j : Int) : VariablePair :=
  if i ≤ j then ⟨i, j⟩ else ⟨j, i⟩

instance : Ord VariablePair where
  compare p q := (compare p.first q.first).then (compare p.second q.second)

end VariablePair

/-- The sum `Σ c · xᵥ + constant`. -/
structure Affine (K : Type) where
  terms : List (Int × K)
  constant : K

/-- The sum `Σ c · xᵢ · xⱼ` over pairs and an affine part. -/
structure Quadratic (K : Type) where
  pairs : List (VariablePair × K)
  terms : List (Int × K)
  constant : K

/-- A function of variables. -/
inductive Function (K : Type) where
  /-- A number, which is a function only as an argument of another. -/
  | number (c : K)
  | var (v : Int)
  | affine (f : Affine K)
  | quadratic (f : Quadratic K)
  /-- The vector of some variables. -/
  | vars (vs : List Int)
  /-- A vector of affine functions. -/
  | rows (fs : List (Affine K))
  /-- An operator, named by its head, applied to functions. -/
  | nonlinear (head : String) (args : List (Function K))

/-- The kinds of functions that a backend may support. -/
inductive FunctionFamily where
  | number
  | var
  | affine
  | quadratic
  | vars
  | rows
  | nonlinear
deriving DecidableEq, Repr

variable {K : Type}

namespace Affine

def canonical [Zero K] [Add K] [BEq K] (terms : List (Int × K)) (constant : K) : Affine K :=
  ⟨Terms.canonical terms, constant⟩

def zero [Zero K] : Affine K :=
  ⟨[], 0⟩

instance [BEq K] : BEq (Affine K) where
  beq f g := f.terms == g.terms && f.constant == g.constant

/-- Renames the variables, merging those that become one. -/
def mapVariables [Zero K] [Add K] [BEq K] (φ : Int → Int) (f : Affine K) : Affine K :=
  canonical (f.terms.map (fun (v, c) => (φ v, c))) f.constant

end Affine

namespace Function

def family : Function K → FunctionFamily
  | .number _ => .number
  | .var _ => .var
  | .affine _ => .affine
  | .quadratic _ => .quadratic
  | .vars _ => .vars
  | .rows _ => .rows
  | .nonlinear _ _ => .nonlinear

/-- The canonical quadratic function, which is affine when no pair is left. -/
def canonicalQuadratic [Zero K] [Add K] [BEq K] (pairs : List (VariablePair × K))
    (terms : List (Int × K)) (constant : K) : Function K :=
  let pairs := Terms.canonical pairs
  let terms := Terms.canonical terms
  if pairs.isEmpty then .affine ⟨terms, constant⟩ else .quadratic ⟨pairs, terms, constant⟩

mutual

/-- Renames the variables, merging those that become one. -/
def mapVariables [Zero K] [Add K] [BEq K] (φ : Int → Int) : Function K → Function K
  | .number c => .number c
  | .var v => .var (φ v)
  | .affine f => .affine (f.mapVariables φ)
  | .quadratic f =>
    canonicalQuadratic (f.pairs.map (fun (p, c) => (.of (φ p.first) (φ p.second), c)))
      (f.terms.map (fun (v, c) => (φ v, c))) f.constant
  | .vars vs => .vars (vs.map φ)
  | .rows fs => .rows (fs.map (·.mapVariables φ))
  | .nonlinear head args => .nonlinear head (mapAllVariables φ args)

def mapAllVariables [Zero K] [Add K] [BEq K] (φ : Int → Int) :
    List (Function K) → List (Function K)
  | [] => []
  | f :: fs => f.mapVariables φ :: mapAllVariables φ fs

end

mutual

/-- Equality of functions of one family, coefficients compared as numbers. -/
def same [BEq K] : Function K → Function K → Bool
  | .number c, .number d => c == d
  | .var v, .var w => v == w
  | .affine f, .affine g => f == g
  | .quadratic f, .quadratic g =>
    f.pairs == g.pairs && f.terms == g.terms && f.constant == g.constant
  | .vars vs, .vars ws => vs == ws
  | .rows fs, .rows gs => fs == gs
  | .nonlinear h as, .nonlinear k bs => h == k && sameAll as bs
  | _, _ => false

def sameAll [BEq K] : List (Function K) → List (Function K) → Bool
  | [], [] => true
  | f :: fs, g :: gs => f.same g && sameAll fs gs
  | _, _ => false

end

instance [BEq K] : BEq (Function K) where
  beq := same

mutual

/-- The variables that occur, with repetitions. -/
def support : Function K → List Int
  | .number _ => []
  | .var v => [v]
  | .affine f => f.terms.map (·.1)
  | .quadratic f => f.pairs.flatMap (fun (p, _) => [p.first, p.second]) ++ f.terms.map (·.1)
  | .vars vs => vs
  | .rows fs => fs.flatMap (fun f => f.terms.map (·.1))
  | .nonlinear _ args => supportAll args

def supportAll : List (Function K) → List Int
  | [] => []
  | f :: fs => f.support ++ supportAll fs

end

mutual

/-- Whether all operators of the function are exact. -/
def isExact : Function K → Bool
  | .nonlinear head args => Operator.isExactHead head && areExact args
  | _ => true

def areExact : List (Function K) → Bool
  | [] => true
  | f :: fs => f.isExact && areExact fs

end

/-- The length of a vector; one for a scalar function. -/
def dimension : Function K → Nat
  | .vars vs => vs.length
  | .rows fs => fs.length
  | _ => 1

/-- The constants of the entries; `none` for a number. -/
def constants? [Zero K] : Function K → Option (List K)
  | .number _ => none
  | .var _ => some [0]
  | .affine f => some [f.constant]
  | .quadratic f => some [f.constant]
  | .vars vs => some (vs.map (fun _ => 0))
  | .rows fs => some (fs.map (·.constant))
  | .nonlinear _ _ => some [0]

/-- The constant of an affine or quadratic function; zero for any other. -/
def constantPart [Zero K] : Function K → K
  | .affine f => f.constant
  | .quadratic f => f.constant
  | _ => 0

/-- The affine or quadratic function with its constant dropped; any other function is kept. -/
def withoutConstant [Zero K] : Function K → Function K
  | .affine f => .affine { f with constant := 0 }
  | .quadratic f => .quadratic { f with constant := 0 }
  | f => f

end Function

end MathProg
