import MathProg.Expression.Operand
import MathProg.Expression.Shape
import MathProg.Number.Checked

/-!
# Arithmetic on operands

An operator between expressions is that of the expressions, and numbers and truth values compute
among themselves. With an array the operator goes from entry to entry, and whatever stands beside
the array counts as an array too: a list by its items, anything else as a single entry. Texts,
lists and tuples are joined by a sum and repeated by a product with an integer. Everything else is
refused.
-/

namespace MathProg.Operand

variable {N K V : Type}

mutual

/-- How deep lists and arrays lie in one another. -/
def depth : Operand N K → Nat
  | list items => depths items + 1
  | tuple items => depths items + 1
  | array _ entries => depths entries + 1
  | _ => 0

def depths : List (Operand N K) → Nat
  | [] => 0
  | o :: os => max o.depth (depths os)

end

/-! ## Lists as arrays -/

section

variable [Numeral N K]

/-- An integer that fits into 64 bits with a sign. -/
def isSigned (n : Int) : Bool :=
  -(pow2 63 : Int) ≤ n && n < pow2 63

/-- An integer beyond all of 64 bits, with or without a sign. -/
def isBeyond (n : Int) : Bool :=
  n < -(pow2 63 : Int) || (pow2 64 : Int) ≤ n

def isText : Operand N K → Bool
  | text _ => true
  | _ => false

/-- The integer, if the operand is one. -/
def integer? : Operand N K → Option Int
  | expression (.number n) => Numeral.integer? n
  | _ => Option.none

/-- Whether the operand is a number, but no integer. -/
def isFraction : Operand N K → Bool
  | expression (.number n) => (Numeral.integer? n).isNone
  | _ => false

/-- Whether the operand is neither a number nor a truth value nor a text. -/
def isObject : Operand N K → Bool
  | expression (.number _) => false
  | truth _ => false
  | text _ => false
  | _ => true

/-- A truth value as the integer one or zero. -/
def asInteger : Operand N K → Operand N K
  | truth b => expression (.number (Numeral.ofInt (if b then 1 else 0)))
  | o => o

/-- A number or a truth value as a number with a fraction. -/
def asFraction (o : Operand N K) : Operand N K :=
  match o.asInteger with
  | expression (.number n) =>
    match Numeral.toCoefficient n with
    | .ok c => expression (.number (Numeral.ofCoefficient c))
    | .error _ => o
  | other => other

/-- A number or a truth value as the text that is written for it. -/
def written : Operand N K → Operand N K
  | expression (.number n) => text (Numeral.text n)
  | truth b => text (if b then "True" else "False")
  | o => o

/-- The items of a list brought to one kind: texts as soon as there is a text, fractions as soon as
there is one or the integers do not fit together into 64 bits, and integers if there is one. Among
items of other kinds, or integers beyond 64 bits, all stay what they are. -/
def unified (items : List (Operand N K)) : List (Operand N K) :=
  let whole := items.filterMap integer?
  if items.any isObject || whole.any isBeyond then items
  else if items.any isText then items.map written
  else if items.any isFraction || (whole.any isSigned && !whole.all isSigned) then
    items.map asFraction
  else if whole.isEmpty then items
  else items.map asInteger

/-- An operand cut into the entries of an array. -/
structure Cut (N K : Type) where
  shape : List Nat
  entries : List (Operand N K)
  /-- Whether the entries come from an array, which holds operands of any kind. -/
  isMixed : Bool

/-- Parts of one shape behind one another. -/
def Cut.join (parts : List (Cut N K)) : Except ExpressionError (Cut N K) :=
  match parts with
  | [] => .ok ⟨[0], [], false⟩
  | first :: others =>
    if others.all (fun part => part.shape == first.shape) then
      .ok ⟨parts.length :: first.shape, parts.flatMap (·.entries), parts.any (·.isMixed)⟩
    else .error .shapes

mutual

/-- The entries of an array, or of lists in one another down to what is no list. -/
def cut : Operand N K → Except ExpressionError (Cut N K)
  | array shape entries => .ok ⟨shape, entries, true⟩
  | list items => do Cut.join (← cuts items)
  | tuple items => do Cut.join (← cuts items)
  | o => .ok ⟨[], [o], false⟩

def cuts : List (Operand N K) → Except ExpressionError (List (Cut N K))
  | [] => .ok []
  | o :: os => do
    let first ← o.cut
    let others ← cuts os
    return first :: others

end

/-- The array that an operand stands for beside an array. -/
def asArray (o : Operand N K) : Except ExpressionError (List Nat × List (Operand N K)) := do
  let c ← o.cut
  return (c.shape, if c.isMixed || c.shape.isEmpty then c.entries else unified c.entries)

/-- Combines two operands from entry to entry. -/
def combine
    (f : Operand N K → Operand N K → Except ExpressionError (Operand N K))
    (left right : Operand N K) : Except ExpressionError (Operand N K) := do
  let (s, xs) ← left.asArray
  let (t, ys) ← right.asArray
  match Shape.pair? s xs t ys with
  | some (shape, pairs) => return array shape (← pairs.mapM (fun (x, y) => f x y))
  | Option.none => .error .shapes

end

/-! ## Numbers and sequences -/

section

variable [Numeral N K] [CheckedArithmetic N K V]

/-- The value of a number; a truth value counts as one or zero. -/
def quantity? : Operand N K → Option V
  | expression (.number n) => some (CheckedArithmetic.ofNumber K n)
  | truth b => some (CheckedArithmetic.ofNat N K (if b then 1 else 0))
  | complex z => some (CheckedArithmetic.ofComplex N K z)
  | _ => Option.none

def ofQuantity (x : V) : Operand N K :=
  match CheckedArithmetic.parts (N := N) K x with
  | .inl n => expression (.number n)
  | .inr z => complex z

end

def Sign.arithmetic : Sign → ArithmeticOp
  | .add => .add
  | .sub => .sub
  | .mul => .mul
  | .div => .div
  | .pow => .pow

def ofArithmetic : ArithmeticError → ExpressionError
  | .divisionByZero => .divisionByZero
  | .overflow => .number .tooLarge
  | _ => .unsupported

/-- Two texts, lists or tuples behind one another. -/
def join? : Operand N K → Operand N K → Option (Operand N K)
  | text s, text t => some (text (s ++ t))
  | list xs, list ys => some (list (xs ++ ys))
  | tuple xs, tuple ys => some (tuple (xs ++ ys))
  | _, _ => Option.none

/-- A text, a list or a tuple so many times, a negative number counting as zero. -/
def repeat? (n : Int) : Operand N K → Option (Operand N K)
  | text s => some (text (String.join (List.replicate n.toNat s)))
  | list xs => some (list (List.replicate n.toNat xs).flatten)
  | tuple xs => some (tuple (List.replicate n.toNat xs).flatten)
  | _ => Option.none

section

variable [Numeral N K]

/-- The length of a sequence. -/
def length? : Operand N K → Option Nat
  | text s => some s.length
  | list xs => some xs.length
  | tuple xs => some xs.length
  | _ => Option.none

/-- Checks the length of a repeated sequence. A number of repetitions, and the length of a text,
must fit into 64 bits with a sign; what is shorter may still be too long to be held. -/
def checkLength (sequence : Operand N K) (length : Nat) (n : Int) : Except ExpressionError Unit :=
  let whole := length * n.toNat
  if !isSigned n || (sequence.isText && !isSigned whole) then .error (.number .tooLarge)
  else if pow2 28 ≤ whole then .error .tooLong
  else .ok ()

/-- A sequence repeated by an operand, which must be an integer. -/
def repeated? (sequence count : Operand N K) :
    Option (Except ExpressionError (Operand N K)) := do
  let n ← count.asInteger.integer?
  let length ← sequence.length?
  match checkLength sequence length n with
  | .error e => return .error e
  | .ok () => return .ok (← sequence.repeat? (if length = 0 then 0 else n))

/-- What a sign makes of sequences. -/
def sequence? (sign : Sign) (left right : Operand N K) :
    Option (Except ExpressionError (Operand N K)) :=
  match sign with
  | .add => (join? left right).map .ok
  | .mul => (repeated? left right).or (repeated? right left)
  | _ => Option.none

end

/-! ## The signs -/

section

variable [Zero K] [One K] [Add K] [Mul K] [Neg K] [Numeral N K]

/-- The error of a sign between an expression and an operand that is none. A nonlinear expression
wants a node, and a difference wants an affine expression as soon as one side insists on it. -/
def mismatch (sign : Sign) (left right : Operand N K) : ExpressionError :=
  match sign, left, right with
  | _, expression (.nonlinear _ _), other => .nonlinearArgument other.kindName
  | .add, other, expression (.nonlinear _ _) => .nonlinearArgument other.kindName
  | .sub, other, expression (.nonlinear _ _) => .nonlinearArgument other.kindName
  | .mul, other, expression (.nonlinear _ _) => .nonlinearArgument other.kindName
  | .sub, expression (.quadratic _), other => .notAffine other.kindName
  | .sub, other, expression (.var _) => .notAffine other.kindName
  | _, _, _ => .unsupported

/-- Whether a left operand refuses an array: it wants a node or an affine expression beside it. -/
def refusesArray (sign : Sign) : Operand N K → Bool
  | expression (.nonlinear _ _) => true
  | expression (.quadratic _) => sign = .sub
  | _ => false

variable [CheckedArithmetic N K V] [Div K] [BEq K]

/-- The result of a sign between two operands of which none is an array. -/
def applyPlain (sign : Sign) (left right : Operand N K) :
    Except ExpressionError (Operand N K) :=
  match left.quantity? (V := V), right.quantity? (V := V) with
  | some x, some y => do
    let z ← (CheckedArithmetic.apply N K (Sign.arithmetic sign) x y).mapError ofArithmetic
    return ofQuantity z
  | _, _ =>
    match left, right with
    | expression e, expression f => do return expression (← e.apply sign f)
    | _, _ => (sequence? sign left right).getD (.error (mismatch sign left right))

/-- The result of a sign between two operands with arrays in one another up to a depth. -/
def applyWithin : Nat → Sign → Operand N K → Operand N K → Except ExpressionError (Operand N K)
  | 0, _, _, _ => .error .unsupported
  | bound + 1, sign, left, right =>
    if (left.isArray || right.isArray) && !left.refusesArray sign then
      combine (applyWithin bound sign) left right
    else applyPlain sign left right

/-- The result of a sign between two operands. -/
def apply (sign : Sign) (left right : Operand N K) : Except ExpressionError (Operand N K) :=
  applyWithin (left.depth + right.depth + 1) sign left right

mutual

def neg : Operand N K → Except ExpressionError (Operand N K)
  | expression e => .ok (expression e.neg)
  | complex z => .ok (complex (-z))
  | truth b => .ok (expression (.number (Numeral.ofInt (if b then -1 else 0))))
  | array shape entries => do return array shape (← negAll entries)
  | _ => .error .unsupported

def negAll : List (Operand N K) → Except ExpressionError (List (Operand N K))
  | [] => .ok []
  | o :: os => do
    let first ← o.neg
    let others ← negAll os
    return first :: others

end

end

end MathProg.Operand
