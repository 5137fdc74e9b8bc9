import MathProg.Representation.Text
import MathProg.Text.Quoted

/-!
# Differences of representations

Variables are compared in order, constraints as multisets, and numbers by value. A constraint that
occurs more often on one side is listed as often as it is in surplus, at the place of its first
occurrence. Two representations are equal if they have no difference.
-/

namespace MathProg

inductive Difference (N K : Type) where
  | vars (left right : List (Option String))
  | sense (left right : Sense)
  | objective (left right : Function K)
  | onlyLeft (e : Entry N K)
  | onlyRight (e : Entry N K)

namespace Counting

variable {α : Type} [BEq α]

/-- Counts one more occurrence. -/
def increment (a : α) : List (α × Nat) → List (α × Nat)
  | [] => [(a, 1)]
  | (b, n) :: rest => if b == a then (b, n + 1) :: rest else (b, n) :: increment a rest

/-- Every item once, with the number of its occurrences, in the order of first occurrence. -/
def tally (items : List α) : List (α × Nat) :=
  items.foldl (fun counts a => increment a counts) []

/-- The items of the first list that are in surplus over the second, each as often as it is. -/
def surplus (left right : List α) : List α :=
  let counts := tally right
  (tally left).flatMap (fun (a, n) => List.replicate (n - (counts.lookup a).getD 0) a)

end Counting

namespace Representation

variable {N K : Type} [BEq N] [BEq K]

def differences (r s : Representation N K) : List (Difference N K) :=
  (if r.variableNames == s.variableNames then []
    else [.vars r.variableNames s.variableNames]) ++
  (if r.sense == s.sense then [] else [.sense r.sense s.sense]) ++
  (if r.objective == s.objective then [] else [.objective r.objective s.objective]) ++
  (Counting.surplus r.constraints s.constraints).map .onlyLeft ++
  (Counting.surplus s.constraints r.constraints).map .onlyRight

instance : BEq (Representation N K) where
  beq r s := (r.differences s).isEmpty

end Representation

/-- A difference in words, the functions of each side under its own names. -/
def Difference.text (leftNames rightNames : List String) :
    Difference Number Float → Except NamingError String
  | vars left right =>
    .ok ("variables differ: " ++ Text.quotedList left ++ " != " ++ Text.quotedList right)
  | sense left right => .ok ("objective sense differs: " ++ left.name ++ " != " ++ right.name)
  | objective left right => do
    let left ← left.text leftNames
    let right ← right.text rightNames
    return "objective differs: " ++ left ++ " != " ++ right
  | onlyLeft e => do return "constraint only on left: " ++ (← e.text leftNames)
  | onlyRight e => do return "constraint only on right: " ++ (← e.text rightNames)

/-- All differences in words. -/
def Representation.explain (r s : Representation Number Float) : Except NamingError (List String) :=
  (r.differences s).mapM (·.text r.displayNames s.displayNames)

end MathProg
