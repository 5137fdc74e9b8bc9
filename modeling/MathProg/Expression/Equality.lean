import MathProg.Expression.Elementwise
import MathProg.Number.Fingerprint

/-!
# Equality of operands

Numbers, texts, truth values and references are equal by their values, tuples by their parts, and
anything else only to itself. What equals has the same key, by which it can be found in a table; a
list or an array has none.
-/

namespace MathProg

/-- What is known of two operands apart from their values. -/
inductive Identity where
  | unknown
  /-- They are one and the same. -/
  | same
  /-- They are tuples, of whose parts this is known. -/
  | parts (each : List Identity)
deriving Inhabited

/-- Why two operands cannot be compared. -/
inductive ComparisonError where
  /-- Arrays do not go together, or have no single truth value. -/
  | arrays
  /-- An operand has no key. -/
  | noKey
deriving DecidableEq, Repr

/-- What identifies an operand in a table. -/
inductive OperandKey where
  | number (fingerprint : Int)
  | text (s : String)
  | none
  | var (v : VariableRef)
  | constraint (c : ConstraintRef)
  | model (m : Nat)
  /-- An operand that only is itself. -/
  | itself
  | tuple (parts : List OperandKey)

def Identity.isSame : Identity → Bool
  | same => true
  | _ => false

/-- What is known of the first parts, and of the others. -/
def Identity.split : Identity → Identity × Identity
  | parts (first :: others) => (first, parts others)
  | same => (same, same)
  | _ => (unknown, unknown)

namespace OperandKey

mutual

/-- Whether two keys are the same. -/
def agrees (known : Identity) : OperandKey → OperandKey → Bool
  | number m, number n => m == n
  | text s, text t => s == t
  | none, none => true
  | var v, var w => v == w
  | constraint c, constraint d => c == d
  | model m, model n => m == n
  | tuple ks, tuple ls => allMatch known ks ls
  | _, _ => known.isSame

def allMatch (known : Identity) : List OperandKey → List OperandKey → Bool
  | [], [] => true
  | k :: ks, l :: ls => k.agrees known.split.1 l && allMatch known.split.2 ks ls
  | _, _ => false

end

end OperandKey

namespace Operand

mutual

/-- The key of an operand. The empty text has that of zero. -/
def key? : Operand Number Float → Option OperandKey
  | expression (.number n) => some ((n.fingerprint?.map .number).getD .itself)
  | expression (.var v) => some (.var v)
  | expression _ => some .itself
  | complex _ => some .itself
  | none => some .none
  | truth b => some (.number (if b then 1 else 0))
  | text s => some (if s.isEmpty then .number 0 else .text s)
  | list _ => Option.none
  | tuple items => do return .tuple (← keys? items)
  | array _ _ => Option.none
  | constraint c => some (.constraint c)
  | model m => some (.model m)

def keys? : List (Operand Number Float) → Option (List OperandKey)
  | [] => some []
  | o :: os => do
    let first ← o.key?
    let others ← keys? os
    return first :: others

end

/-- The number that an operand is, a truth value counting as one or zero. -/
def number? (o : Operand Number Float) : Option Number :=
  match o.asInteger with
  | expression (.number n) => some n
  | _ => Option.none

mutual

/-- Whether two parts are equal. One and the same always is. -/
def equalParts (known : Identity) (left right : Operand Number Float) :
    Except ComparisonError Bool :=
  if known.isSame then .ok true
  else
    match left, right with
    | text s, text t => .ok (s == t)
    | none, none => .ok true
    | expression (.var v), expression (.var w) => .ok (v == w)
    | constraint c, constraint d => .ok (c == d)
    | model m, model n => .ok (m == n)
    | tuple xs, tuple ys => if xs.length = ys.length then allEqual known xs ys else .ok false
    | list xs, list ys => if xs.length = ys.length then allEqual known xs ys else .ok false
    | array _ _, _ => .error .arrays
    | _, array _ _ => .error .arrays
    | left, right =>
      match left.number?, right.number? with
      | some m, some n => .ok (m == n)
      | _, _ => .ok false

/-- Whether the parts of two tuples are equal, up to the first that are not. -/
def allEqual (known : Identity) : List (Operand Number Float) → List (Operand Number Float) →
    Except ComparisonError Bool
  | x :: xs, y :: ys => do
    if ← equalParts known.split.1 x y then allEqual known.split.2 xs ys else return false
  | _, _ => return true

end

/-- Whether the shape of an array goes together with the shape of what stands beside it. -/
def fitsArray (left right : Operand Number Float) : Bool :=
  match left.asArray, right.asArray with
  | .ok (s, _), .ok (t, _) => (Shape.common? s t).isSome
  | _, _ => false

/-- Whether two operands are equal. A number that is not equal to itself is not, even if it is one
and the same. -/
def isEqual (known : Identity) (left right : Operand Number Float) :
    Except ComparisonError Bool :=
  if left.isArray || right.isArray then
    if left.fitsArray right then .ok false else .error .arrays
  else
    match left.number?, right.number? with
    | some m, some n => .ok (m == n)
    | _, _ => equalParts known left right

/-- Whether two operands are equal, and whether their keys are the same. -/
def compare (known : Identity) (left right : Operand Number Float) :
    Except ComparisonError (Bool × Bool) := do
  let equal ← isEqual known left right
  match left.key?, right.key? with
  | some k, some l => return (equal, k.agrees known l)
  | _, _ => .error .noKey

end Operand

end MathProg
