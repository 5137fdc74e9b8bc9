import MathProg.Function.Basic

/-!
# Values of functions

A function is evaluated in a monad, so that looking up a variable and applying an operator may fail.
Sums run from the left: the terms from zero, then added to the constant. A value is a number, a
vector or a matrix, or several values of one shape behind one another.
-/

namespace MathProg

/-! ## Values and their shapes -/

/-- A value in the shape of what it is the value of. -/
inductive Shaped (K : Type) where
  | scalar (x : K)
  | vector (xs : List K)
  | matrix (rows : List (List K))
  /-- Values of one shape behind one another. -/
  | stack (parts : List (Shaped K))

namespace Shaped

variable {K L : Type}

mutual

/-- The same shape with every entry changed. -/
def map (f : K → L) : Shaped K → Shaped L
  | scalar x => scalar (f x)
  | vector xs => vector (xs.map f)
  | matrix rows => matrix (rows.map (·.map f))
  | stack parts => stack (mapAll f parts)

def mapAll (f : K → L) : List (Shaped K) → List (Shaped L)
  | [] => []
  | x :: xs => x.map f :: mapAll f xs

end

/-- The number that an array holds as its only entry, or that stands alone. A list is none. -/
def only? : Shaped K → Option K
  | scalar x => some x
  | matrix [[x]] => some x
  | stack [part] => part.only?
  | _ => none

end Shaped

/-! ## Evaluation -/

/-- How variables and operators are read. -/
structure Interpretation (m : Type → Type) (K : Type) where
  value : Int → m K
  operator : String → List (Shaped K) → m K

variable {K : Type} {m : Type → Type} [Monad m] [Zero K] [Add K] [Mul K]

def Affine.evaluate (value : Int → m K) (f : Affine K) : m K := do
  let sum ← f.terms.foldlM (fun sum (v, c) => do return sum + c * (← value v)) 0
  return f.constant + sum

/-- The affine part first, then the pairs. -/
def Quadratic.evaluate (value : Int → m K) (f : Quadratic K) : m K := do
  let linear ← Affine.evaluate value ⟨f.terms, f.constant⟩
  let sum ← f.pairs.foldlM
    (fun sum (p, c) => do
      let x ← value p.first
      let y ← value p.second
      return sum + c * x * y) 0
  return linear + sum

namespace Function

mutual

/-- The value of a function, a list for a vector; a number is its own value. -/
def evaluate (i : Interpretation m K) : Function K → m (Shaped K)
  | .number c => return .scalar c
  | .var v => do return .scalar (← i.value v)
  | .affine f => do return .scalar (← f.evaluate i.value)
  | .quadratic f => do return .scalar (← f.evaluate i.value)
  | .vars vs => do return .vector (← vs.mapM i.value)
  | .rows fs => do return .vector (← fs.mapM (·.evaluate i.value))
  | .nonlinear head args => do return .scalar (← i.operator head (← evaluateAll i args))

def evaluateAll (i : Interpretation m K) : List (Function K) → m (List (Shaped K))
  | [] => return []
  | f :: fs => do
    let x ← f.evaluate i
    let xs ← evaluateAll i fs
    return x :: xs

end

end Function

end MathProg
