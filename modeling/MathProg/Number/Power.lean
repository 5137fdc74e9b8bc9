/-!
# Powers and square roots

Powers of two and of ten, and square roots of naturals rounded down.
-/

namespace MathProg

def pow2 (n : Nat) : Nat :=
  Nat.pow 2 n

def pow10 (n : Nat) : Nat :=
  Nat.pow 10 n

/-- The largest number whose square is at most `n`: twice the root of `n / 4`, or one more. -/
def squareRoot (n : Nat) : Nat :=
  if n = 0 then 0
  else
    let low := 2 * squareRoot (n / 4)
    if (low + 1) * (low + 1) ≤ n then low + 1 else low

end MathProg
