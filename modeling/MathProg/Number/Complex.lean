import MathProg.Number.FloatText

/-!
# Complex numbers in floats

Powers of negative numbers to fractions are complex. Integer exponents up to one hundred multiply
repeatedly; all others go through polar coordinates. The functions that lead from complex numbers to
complex numbers are made of the real ones for the two parts. As text, integers are written without a
point.
-/

namespace MathProg

/-- A complex number in rectangular coordinates. -/
structure Complex where
  re : Float
  im : Float

/-- Why a complex operation has no result. -/
inductive ComplexError where
  | divisionByZero
  | overflow
deriving DecidableEq, Repr

namespace Complex

def ofFloat (x : Float) : Complex :=
  ⟨x, 0.0⟩

def isZero (a : Complex) : Bool :=
  a.re == 0.0 && a.im == 0.0

instance : Add Complex where
  add a b := ⟨a.re + b.re, a.im + b.im⟩

instance : Sub Complex where
  sub a b := ⟨a.re - b.re, a.im - b.im⟩

instance : Neg Complex where
  neg a := ⟨-a.re, -a.im⟩

instance : Mul Complex where
  mul a b := ⟨a.re * b.re - a.im * b.im, a.re * b.im + a.im * b.re⟩

/-- The quotient, scaled by the larger part of the divisor. -/
def div (a b : Complex) : Except ComplexError Complex :=
  if b.isZero then .error .divisionByZero
  else if b.im.abs ≤ b.re.abs then
    let ratio := b.im / b.re
    let scale := b.re + b.im * ratio
    .ok ⟨(a.re + a.im * ratio) / scale, (a.im - a.re * ratio) / scale⟩
  else if b.re.abs ≤ b.im.abs then
    let ratio := b.re / b.im
    let scale := b.re * ratio + b.im
    .ok ⟨(a.re * ratio + a.im) / scale, (a.im * ratio - a.re) / scale⟩
  else .ok ⟨0.0 / 0.0, 0.0 / 0.0⟩

/-- The product of `n` factors `a`, by repeated squaring from the lowest bit. -/
def powNat (a : Complex) (n : Nat) : Complex :=
  go (n + 1) n a ⟨1.0, 0.0⟩
where
  go : Nat → Nat → Complex → Complex → Complex
    | 0, _, _, acc => acc
    | fuel + 1, n, square, acc =>
      if n = 0 then acc
      else go fuel (n / 2) (square * square) (if n % 2 = 1 then acc * square else acc)

/-- The hypotenuse over the legs `0 ≤ y ≤ x`, whose squares neither overflow nor vanish. The
rounding error of the root is taken off again. -/
def hypotenuse (x y : Float) : Float :=
  let h := Float.sqrt (x * x + y * y)
  let excess :=
    if h ≤ 2.0 * y then
      let d := h - y
      x * (2.0 * d - x) + (d - 2.0 * (x - y)) * d
    else
      let d := h - x
      2.0 * d * (x - 2.0 * y) + ((4.0 * d - y) * y + d * d)
  h - excess / (2.0 * h)

/-- The hypotenuse over the legs `0 ≤ y ≤ x`. Very long and very short legs are scaled, and a leg
that makes no difference to the longer one is only added. -/
def scaledHypotenuse (x y : Float) : Float :=
  let factor := Float.scaleB 1.0 (-600)
  if y ≤ x * Float.scaleB 1.0 (-54) then x + y
  else if Float.scaleB 1.0 511 < x then hypotenuse (x * factor) (y * factor) / factor
  else if y < Float.scaleB 1.0 (-459) then hypotenuse (x / factor) (y / factor) * factor
  else hypotenuse x y

/-- The distance from zero, infinite as soon as one part is. -/
def abs (a : Complex) : Float :=
  let x := a.re.abs
  let y := a.im.abs
  if x.isInf || y.isInf then 1.0 / 0.0
  else if x < y then scaledHypotenuse y x
  else scaledHypotenuse x y

/-- The power in polar coordinates. Nothing has an infinite angle. -/
def powPolar (a b : Complex) : Except ComplexError Complex :=
  if b.isZero then .ok ⟨1.0, 0.0⟩
  else if a.isZero then
    if b.im != 0.0 || b.re < 0.0 then .error .divisionByZero else .ok ⟨0.0, 0.0⟩
  else
    let size := a.abs
    let angle := Float.atan2 a.im a.re
    let length := Float.pow size b.re
    let (length, phase) :=
      if b.im != 0.0 then
        (length / Float.exp (angle * b.im), angle * b.re + b.im * Float.log size)
      else (length, angle * b.re)
    if phase.isInf then .error .divisionByZero
    else .ok ⟨length * Float.cos phase, length * Float.sin phase⟩

/-- The power; an infinite part is an overflow. -/
def pow (a b : Complex) : Except ComplexError Complex := do
  let result ←
    if b.im == 0.0 && b.re == b.re.floor && b.re.abs ≤ 100.0 then
      let n := b.re.abs.toUInt64.toNat
      if 0.0 < b.re then .ok (a.powNat n) else div ⟨1.0, 0.0⟩ (a.powNat n)
    else powPolar a b
  if result.re.isInf || result.im.isInf then .error .overflow else .ok result

/-! ## Text -/

/-- A part as text. -/
def partText (x : Float) : String :=
  let text := FloatText.shortest x
  if text.endsWith ".0" then (text.dropEnd 2).toString else text

/-- The imaginary part with its sign. -/
def imaginaryText (x : Float) : String :=
  let text := partText x
  (if text.startsWith "-" then text else "+" ++ text) ++ "j"

/-- Both parts in round brackets, as in `(1.5-2j)`; a real part of zero is left out with them. -/
def text (z : Complex) : String :=
  if z.re == 0.0 && !Binary64.signBit z.re then partText z.im ++ "j"
  else "(" ++ partText z.re ++ imaginaryText z.im ++ ")"

end Complex

end MathProg
