import MathProg.Function.Evaluation
import MathProg.Function.Operator

/-!
# Operators on vectors

The arguments of an operator may be vectors, but its value is one number. A sum or a product runs
over all entries of vectors of one length. Every other operator works entry by entry: an argument
with one entry goes with any length, and a single entry must come out. Such an operator, the minus
sign apart, takes one vector more than it has arguments; of that one nothing counts but its length,
which the result takes on.
-/

namespace MathProg

variable {K : Type}

namespace Shaped

/-- The numbers, if there is nothing else. -/
def scalars? (args : List (Shaped K)) : Option (List K) :=
  args.mapM (fun
    | scalar x => some x
    | _ => none)

/-- The entries of every vector, if there is nothing else. -/
def vectors? (args : List (Shaped K)) : Option (List (List K)) :=
  args.mapM (fun
    | vector xs => some xs
    | _ => none)

/-- The length of a vector. -/
def length? : Shaped K → Option Nat
  | vector xs => some xs.length
  | _ => none

/-- The number that a vector holds as its only entry, or that stands alone. -/
def single? : Shaped K → Option K
  | scalar x => some x
  | vector [x] => some x
  | _ => none

end Shaped

namespace Operator

/-- How many arguments an operator takes when so many are given, if it does not take any number of
them. The minus sign does without its second one. -/
def inputs? (op : Operator) (given : Nat) : Option Nat :=
  match op with
  | minus => some (if given = 1 then 1 else 2)
  | op => op.arity?

/-- The length that lengths have in common, where a length of one goes with any other. -/
def commonLength (lengths : List Nat) : Except OperatorError Nat :=
  match lengths.filter (· ≠ 1) with
  | [] => .ok 1
  | n :: rest => if rest.all (· = n) then .ok n else .error .lengths

/-- The length of what comes out of vectors of length `n`, with the length of the extra vector. -/
def resultLength (n : Nat) : Option Nat → Except OperatorError Nat
  | none => .ok n
  | some extra => if n = 1 || n = extra then .ok extra else .error .lengths

/-- The length of the extra vector behind the arguments, if there is one. -/
def extraLength (op : Operator) : List (Shaped K) → Except OperatorError (Option Nat)
  | [] => .ok none
  | [.vector xs] => if op = minus then .error .arity else .ok (some xs.length)
  | _ => .error .arity

variable [OperatorMeaning K]

/-- The value of an operator that takes `n` arguments and works entry by entry. -/
def applyEntrywise (op : Operator) (n : Nat) (args : List (Shaped K)) : Except OperatorError K := do
  let inputs := args.take n
  if inputs.length < n then throw .arity
  let extra ← op.extraLength (args.drop n)
  let length ← resultLength (← commonLength (inputs.filterMap Shaped.length?)) extra
  match inputs.mapM Shaped.single? with
  | some xs => if length = 1 then OperatorMeaning.apply op xs else throw .notSingle
  | none => throw .notSingle

/-- The value of an operator that runs over all entries. -/
def applyOverall (op : Operator) (args : List (Shaped K)) : Except OperatorError K :=
  match Shaped.scalars? args, Shaped.vectors? args with
  | some xs, _ => OperatorMeaning.apply op xs
  | none, some vectors =>
    let lengths := vectors.map List.length
    if lengths.all (fun n => lengths.all (· = n)) then OperatorMeaning.apply op vectors.flatten
    else .error .lengths
  | none, none => .error .lengths

/-- The value of the operator with the given head. -/
def applyHead (head : String) (args : List (Shaped K)) : Except OperatorError K :=
  match ofHead? head with
  | none => .error .unknownHead
  | some op =>
    match op.inputs? args.length with
    | some n => op.applyEntrywise n args
    | none => op.applyOverall args

end Operator

end MathProg
