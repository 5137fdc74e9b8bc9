import MathProg.Number.Power

/-!
# Binary64 values as exact numbers

A finite `Float` is `± significand · 2 ^ exponent`. `decode` reads these numbers off the bits and
`ofRatio` goes back from a quotient of naturals, rounding once: to the nearest float, and to the
even significand where two are equally near.
-/

namespace MathProg.Binary64

/-- What the bits of a float stand for. -/
inductive Value where
  | notANumber
  | infinite (negative : Bool)
  /-- The number `± significand · 2 ^ exponent`. -/
  | finite (negative : Bool) (significand : Nat) (exponent : Int)
deriving DecidableEq, Repr

/-- The exact value of a float. The significand has at most 53 bits. -/
def decode (x : Float) : Value :=
  let bits := x.toBits.toNat
  let negative := bits / pow2 63 == 1
  let field : Nat := bits / pow2 52 % pow2 11
  let fraction : Nat := bits % pow2 52
  if field = 2047 then
    if fraction = 0 then .infinite negative else .notANumber
  else if field = 0 then .finite negative fraction (-1074)
  else .finite negative (pow2 52 + fraction) ((field : Int) - 1075)

/-- Whether the sign bit is set, also for zeros. -/
def signBit (x : Float) : Bool :=
  x.toBits.toNat / pow2 63 == 1

/-- The float with the magnitude of `x` and the given sign. -/
def withSign (negative : Bool) (x : Float) : Float :=
  if signBit x == negative then x else -x

/-- The quotient rounded to the nearest integer, a half to the even neighbour. -/
def roundDiv (num den : Nat) : Nat :=
  let q := num / den
  let r := num % den
  if 2 * r < den then q
  else if den < 2 * r then q + 1
  else if q % 2 = 0 then q else q + 1

/-- `n · 2 ^ e` as a quotient: the factors of numerator and denominator. -/
def scaleByTwo (e : Int) : Nat × Nat :=
  (pow2 e.toNat, pow2 (-e).toNat)

/-- The bits of the positive float nearest to `num / den`, without the sign bit.

The significand is rounded at an exponent that leaves it 53 bits, or at the least exponent there is.
A significand that rounds up to the next power of two carries into the exponent field. -/
def magnitudeBits (num den : Nat) : Nat :=
  let guess : Int := (num.log2 : Int) - den.log2 - 53
  let wide := (scaleByTwo (-guess)).1 * num ≥ pow2 53 * ((scaleByTwo (-guess)).2 * den)
  let exponent := max (if wide then guess + 1 else guess) (-1074)
  let (up, down) := scaleByTwo (-exponent)
  let bits := (exponent + 1074).toNat * pow2 52 + roundDiv (up * num) (down * den)
  min bits (2047 * pow2 52)

/-- The float nearest to `± num / den`; infinite beyond the largest finite float. -/
def ofRatio (negative : Bool) (num den : Nat) : Float :=
  let magnitude := if num = 0 then 0 else magnitudeBits num den
  Float.ofBits (.ofNat (magnitude + if negative then pow2 63 else 0))

/-- The number of decimal digits of `n`; zero has none. -/
def decimalLength (n : Nat) : Nat :=
  if n = 0 then 0 else decimalLength (n / 10) + 1

/-- The float nearest to `± digits · 10 ^ exponent`.

A power of ten that decides the answer by itself is never computed. -/
def ofDecimal (negative : Bool) (digits : Nat) (exponent : Int) : Float :=
  let top := (decimalLength digits : Int) + exponent
  if digits = 0 || top < -400 then ofRatio negative 0 1
  else if 400 < top then ofRatio negative (pow2 2000) 1
  else ofRatio negative (digits * pow10 exponent.toNat) (pow10 (-exponent).toNat)

/-- The float nearest to an integer, or `none` if the integer is beyond the finite floats. -/
def ofInt? (n : Int) : Option Float :=
  let x := ofRatio (n < 0) n.natAbs 1
  if x.isInf then none else some x

/-- The integer between zero and the value that is nearest to the value. -/
def truncate (negative : Bool) (significand : Nat) (exponent : Int) : Int :=
  let (up, down) := scaleByTwo exponent
  let magnitude : Nat := significand * up / down
  if negative then -magnitude else magnitude

/-- The exact remainder of the magnitudes with the sign of the dividend.

Both arguments are finite and `y` is not zero. The quotient is taken toward zero. -/
def remainder (x y : Float) : Float :=
  match decode x, decode y with
  | .finite negative m e, .finite _ n f =>
    let common := min e f
    let a := m * pow2 (e - common).toNat
    let b := n * pow2 (f - common).toNat
    let (up, down) := scaleByTwo common
    ofRatio negative (a % b * up) down
  | _, _ => x

end MathProg.Binary64
