import MathProg.Function.Basic
import MathProg.Number.FloatText
import MathProg.Position

/-!
# Functions as text

Terms are joined by plus signs, coefficients keep their own sign. Variables appear under the given
names; a variable without one makes the text impossible.
-/

namespace MathProg

/-- The names give no name for a variable. -/
inductive NamingError where
  | missing
  /-- A number alone has no text. -/
  | bareNumber
deriving DecidableEq, Repr

def nameOf (names : List String) (v : Int) : Except NamingError String :=
  match Position.get? names v with
  | some name => .ok name
  | none => .error .missing

def termText (names : List String) (v : Int) (c : Float) : Except NamingError String := do
  return FloatText.shortest c ++ "*" ++ (← nameOf names v)

/-- A constant is left out when it is zero and something else stands there. -/
def Affine.text (names : List String) (f : Affine Float) : Except NamingError String := do
  let parts ← f.terms.mapM (fun (v, c) => termText names v c)
  let constant :=
    if f.constant != 0.0 || parts.isEmpty then [FloatText.shortest f.constant] else []
  return " + ".intercalate (parts ++ constant)

def Quadratic.text (names : List String) (f : Quadratic Float) : Except NamingError String := do
  let pairs ← f.pairs.mapM (fun (p, c) => do
    let first ← termText names p.first c
    return first ++ "*" ++ (← nameOf names p.second))
  let terms ← f.terms.mapM (fun (v, c) => termText names v c)
  let constant := if f.constant != 0.0 then [FloatText.shortest f.constant] else []
  return " + ".intercalate (pairs ++ terms ++ constant)

def bracketed (parts : List String) : String :=
  "[" ++ ", ".intercalate parts ++ "]"

namespace Function

mutual

/-- The text of a function as an argument. -/
def argumentText (names : List String) : Function Float → Except NamingError String
  | .number c => .ok (FloatText.shortest c)
  | .var v => nameOf names v
  | .affine f => f.text names
  | .quadratic f => f.text names
  | .vars vs => do return bracketed (← vs.mapM (nameOf names))
  | .rows fs => do return bracketed (← fs.mapM (·.text names))
  | .nonlinear head args => do
    return head ++ "(" ++ ", ".intercalate (← argumentTexts names args) ++ ")"

def argumentTexts (names : List String) : List (Function Float) → Except NamingError (List String)
  | [] => .ok []
  | f :: fs => do
    let first ← f.argumentText names
    let others ← argumentTexts names fs
    return first :: others

end

/-- The text of a function; a number alone is no function. -/
def text (names : List String) : Function Float → Except NamingError String
  | .number _ => .error .bareNumber
  | f => f.argumentText names

end Function

end MathProg
