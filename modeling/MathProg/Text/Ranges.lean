/-!
# Tables of character ranges

A property of characters is an array of closed ranges of code points, ascending and apart. Lookups
halve the array.
-/

namespace MathProg.Text.Ranges

/-- The start of the range that holds `n`. -/
def find? (table : Array (Nat × Nat)) (n : Nat) : Option Nat :=
  go (table.size + 1) 0 table.size
where
  /-- Searches the ranges from `low` up to but not including `high`. -/
  go : Nat → Nat → Nat → Option Nat
    | 0, _, _ => none
    | fuel + 1, low, high =>
      if high ≤ low then none
      else
        let middle := (low + high) / 2
        match table[middle]? with
        | none => none
        | some (first, last) =>
          if n < first then go fuel low middle
          else if last < n then go fuel (middle + 1) high
          else some first

def mem (table : Array (Nat × Nat)) (n : Nat) : Bool :=
  (find? table n).isSome

end MathProg.Text.Ranges
