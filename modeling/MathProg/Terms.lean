/-!
# Sums of terms

A sum is a list of keys with coefficients. `add` keeps the keys in the order of their first arrival,
`insert` in ascending order. Both start a new key from zero, so that a coefficient is always the sum
of what was added, from the left.
-/

namespace MathProg.Terms

variable {κ K : Type}

/-- The coefficient of a key, zero if the key does not occur. -/
def coefficient [BEq κ] [Zero K] (k : κ) (terms : List (κ × K)) : K :=
  (terms.lookup k).getD 0

/-- Adds `c` to the coefficient of `k`; a new key goes to the end. -/
def add [BEq κ] [Zero K] [Add K] (k : κ) (c : K) : List (κ × K) → List (κ × K)
  | [] => [(k, 0 + c)]
  | (l, d) :: rest => if l == k then (l, d + c) :: rest else (l, d) :: add k c rest

/-- Adds terms one after the other. -/
def addAll [BEq κ] [Zero K] [Add K] (terms more : List (κ × K)) : List (κ × K) :=
  more.foldl (fun sum (k, c) => add k c sum) terms

/-- Adds `c` to the coefficient of `k` in a list with ascending keys. -/
def insert [Ord κ] [Zero K] [Add K] (k : κ) (c : K) : List (κ × K) → List (κ × K)
  | [] => [(k, 0 + c)]
  | (l, d) :: rest =>
    match compare k l with
    | .lt => (k, 0 + c) :: (l, d) :: rest
    | .eq => (l, d + c) :: rest
    | .gt => (l, d) :: insert k c rest

/-- The terms in ascending order of their keys, each key once and no coefficient zero. -/
def canonical [Ord κ] [Zero K] [Add K] [BEq K] (terms : List (κ × K)) : List (κ × K) :=
  (terms.foldl (fun sum (k, c) => insert k c sum) []).filter (fun (_, c) => c != 0)

/-- Every coefficient changed by `f`. -/
def mapCoefficients (f : K → K) (terms : List (κ × K)) : List (κ × K) :=
  terms.map (fun (k, c) => (k, f c))

end MathProg.Terms
