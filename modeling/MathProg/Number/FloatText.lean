import MathProg.Number.Shortest

/-!
# Floats as text

`shortest` writes the fewest digits that read back, `general` at most the given number of
significant digits, and `scientific` exactly the given number of places.
-/

namespace MathProg.FloatText

open Binary64 (Value decode)

def zeros (n : Nat) : String :=
  String.ofList (List.replicate n '0')

/-- An exponent with its sign and at least two digits. -/
def exponentMark (e : Int) : String :=
  let digits := toString e.natAbs
  (if e < 0 then "e-" else "e+") ++ (if digits.length < 2 then "0" ++ digits else digits)

/-- Digits with the point after the first one; no point when nothing follows it. -/
def pointed (digits : String) : String :=
  match digits.toList with
  | [] => ""
  | [c] => String.singleton c
  | c :: rest => String.ofList (c :: '.' :: rest)

/-- `digits · 10 ^ exponent` with the point in its place and at least one digit on each side. -/
def positional (digits : String) (exponent : Int) : String :=
  let count := (digits.length : Int) + exponent
  if 0 ≤ exponent then digits ++ zeros exponent.toNat ++ ".0"
  else if count ≤ 0 then "0." ++ zeros (-count).toNat ++ digits
  else
    let chars := digits.toList
    String.ofList (chars.take count.toNat) ++ "." ++ String.ofList (chars.drop count.toNat)

/-- The text of a float from the text of its nonzero finite magnitude and that of zero. -/
def withSpecials (zero : String) (magnitude : Nat → Int → String) (x : Float) : String :=
  match decode x with
  | .notANumber => "nan"
  | .infinite negative => if negative then "-inf" else "inf"
  | .finite negative m e =>
    let body := if m = 0 then zero else magnitude m e
    if negative then "-" ++ body else body

/-- The fewest digits that read back, written positionally when the first digit stands for a power
of ten from `10 ^ -4` up to `10 ^ 15`, and with an exponent otherwise. -/
def shortest (x : Float) : String :=
  withSpecials "0.0" (fun m e =>
    let d := Decimal.shortest m e
    let digits := toString d.digits
    let leading := (digits.length : Int) - 1 + d.exponent
    if -4 ≤ leading ∧ leading < 16 then positional digits d.exponent
    else pointed digits ++ exponentMark leading) x

/-- `x` with `places` digits after the point and an exponent. -/
def scientific (places : Nat) (x : Float) : String :=
  let zero := pointed (zeros (places + 1)) ++ "e+00"
  withSpecials zero (fun m e =>
    let (digits, leading) := Decimal.significant (places + 1) m e
    pointed (toString digits) ++ exponentMark leading) x

/-- `x` with at most `count` significant digits and no trailing zeros, written with an exponent when
the first digit stands for less than `10 ^ -4` or for `10 ^ count` and more. -/
def general (count : Nat) (x : Float) : String :=
  withSpecials "0" (fun m e =>
    let (rounded, leading) := Decimal.significant count m e
    let d := Decimal.strip ⟨rounded, leading - count + 1⟩
    let digits := toString d.digits
    if leading < -4 ∨ (count : Int) ≤ leading then pointed digits ++ exponentMark leading
    else if 0 ≤ d.exponent then digits ++ zeros d.exponent.toNat
    else positional digits d.exponent) x

end MathProg.FloatText
