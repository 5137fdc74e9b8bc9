import MathProg.Number.Binary64

/-!
# Division rounded down

The quotient of two floats rounded toward negative infinity, and the remainder that belongs to it,
which has the sign of the divisor.
-/

namespace MathProg

namespace FloatArithmetic

/-- The remainder of the division toward zero. -/
def truncatedMod (x y : Float) : Float :=
  match Binary64.decode x, Binary64.decode y with
  | .finite .., .finite .. => Binary64.remainder x y
  | .finite .., .infinite _ => x
  | _, _ => 0.0 / 0.0

/-- The remainder with the sign of the divisor. -/
def mod (x y : Float) : Float :=
  let r := truncatedMod x y
  if r == 0.0 then Binary64.withSign (Binary64.signBit y) 0.0
  else if (y < 0.0) != (r < 0.0) then r + y
  else r

/-- The quotient rounded toward negative infinity. -/
def floorDiv (x y : Float) : Float :=
  let r := truncatedMod x y
  let exact := (x - r) / y
  let quotient := if r != 0.0 && (y < 0.0) != (r < 0.0) then exact - 1.0 else exact
  if quotient == 0.0 then Binary64.withSign (Binary64.signBit (x / y)) 0.0
  else
    let down := quotient.floor
    if quotient - down > 0.5 then down + 1.0 else down

end FloatArithmetic

end MathProg
