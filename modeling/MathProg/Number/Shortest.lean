import MathProg.Number.Binary64

/-!
# Shortest decimal digits

The reals that round to a float form an interval around it. `shortest` finds the fewest decimal
digits of a number in that interval, and of the candidates with that many digits the nearest to the
float.
-/

namespace MathProg

/-- The number `digits · 10 ^ exponent`. -/
structure Decimal where
  digits : Nat
  exponent : Int
deriving DecidableEq, Repr

namespace Decimal

/-- Compares `a · 10 ^ i` with `n · 2 ^ j`. -/
def compareScaled (a : Nat) (i : Int) (n : Nat) (j : Int) : Ordering :=
  compare (a * pow10 i.toNat * pow2 (-j).toNat) (n * pow2 j.toNat * pow10 (-i).toNat)

/-- Whether reading `d` gives back `m · 2 ^ e`: it lies between the midpoints to the neighbouring
floats, and may be a midpoint itself when `m` is even. Below a power of two the neighbour is at half
the distance. -/
def readsBack (m : Nat) (e : Int) (d : Decimal) : Bool :=
  let narrow := m == pow2 52 && decide (-1074 < e)
  let low := if narrow then 4 * m - 1 else 4 * m - 2
  let fromLow := compareScaled d.digits d.exponent low (e - 2)
  let fromHigh := compareScaled d.digits d.exponent (4 * m + 2) (e - 2)
  let even := m % 2 == 0
  (fromLow == .gt || (even && fromLow == .eq)) && (fromHigh == .lt || (even && fromHigh == .eq))

/-- The least `k` with `m · 2 ^ e < 10 ^ k`, searched upward from below. -/
def magnitude (m : Nat) (e : Int) : Int :=
  -- 1233 / 4096 is a little above the logarithm of two
  let estimate := ((m.log2 : Int) + e) * 1233 / 4096 - 2
  go 8 estimate
where
  go : Nat → Int → Int
    | 0, k => k
    | n + 1, k => if compareScaled 1 k m e = .gt then k else go n (k + 1)

/-- The integer part of `m · 2 ^ e / 10 ^ i`. -/
def floorScaled (m : Nat) (e i : Int) : Nat :=
  m * pow2 e.toNat * pow10 (-i).toNat / (pow2 (-e).toNat * pow10 i.toNat)

/-- The nearest integer to `m · 2 ^ e / 10 ^ i`, a half to the even neighbour. -/
def roundScaled (m : Nat) (e i : Int) : Nat :=
  Binary64.roundDiv (m * pow2 e.toNat * pow10 (-i).toNat) (pow2 (-e).toNat * pow10 i.toNat)

/-- The point of the grid `10 ^ i` that reads back to `m · 2 ^ e`, the nearer one of two. -/
def onGrid? (m : Nat) (e i : Int) : Option Decimal :=
  let below : Decimal := ⟨floorScaled m e i, i⟩
  let above : Decimal := ⟨below.digits + 1, i⟩
  match readsBack m e below, readsBack m e above with
  | true, true => some ⟨roundScaled m e i, i⟩
  | true, false => some below
  | false, true => some above
  | false, false => none

/-- Moves trailing zeros of the digits into the exponent. -/
def strip (d : Decimal) : Decimal :=
  go d.digits d.digits d.exponent
where
  go : Nat → Nat → Int → Decimal
    | 0, n, e => ⟨n, e⟩
    | fuel + 1, n, e => if n ≠ 0 ∧ n % 10 = 0 then go fuel (n / 10) (e + 1) else ⟨n, e⟩

/-- The fewest digits that read back to `m · 2 ^ e`. Seventeen always suffice. -/
def shortest (m : Nat) (e : Int) : Decimal :=
  let k := magnitude m e
  match (List.range 17).findSome? (fun (n : Nat) => onGrid? m e (k - 1 - n)) with
  | some d => d.strip
  | none => ⟨m * pow2 e.toNat * Nat.pow 5 (-e).toNat, min e 0⟩

/-- `m · 2 ^ e` rounded to `count` significant digits, with the power of ten of the first digit. -/
def significant (count m : Nat) (e : Int) : Nat × Int :=
  let k := magnitude m e
  let digits := roundScaled m e (k - count)
  if digits = pow10 count then (pow10 (count - 1), k) else (digits, k - 1)

end Decimal

end MathProg
