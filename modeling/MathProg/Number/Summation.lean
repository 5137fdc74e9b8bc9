/-!
# Pairwise summation

Long sums are split so that rounding errors stay small. Fewer than eight numbers are added from the
left, up to 128 in eight running sums, and more in two halves. The numbers may be of any kind; floats
start from negative zero, which changes no float.
-/

namespace MathProg.Summation

variable {K : Type} [Zero K] [Add K] [Neg K]

def fromLeft (start : K) (xs : List K) : K :=
  xs.foldl (· + ·) start

/-- Adds eight numbers to eight running sums. -/
def addLanes (lanes xs : List K) : List K :=
  List.zipWith (· + ·) lanes xs

/-- Eight running sums over all full groups of eight, and the numbers left over. -/
def lanes : Nat → List K → List K → List K × List K
  | 0, sums, rest => (sums, rest)
  | fuel + 1, sums, rest =>
    if rest.length < 8 then (sums, rest)
    else lanes fuel (addLanes sums (rest.take 8)) (rest.drop 8)

/-- The sum of eight running sums, joined in pairs. -/
def join : List K → K
  | [a, b, c, d, e, f, g, h] => ((a + b) + (c + d)) + ((e + f) + (g + h))
  | sums => fromLeft 0 sums

def pairwise (xs : List K) : K :=
  go (xs.length + 1) xs
where
  go : Nat → List K → K
    | 0, xs => fromLeft (-0) xs
    | fuel + 1, xs =>
      let n := xs.length
      if n < 8 then fromLeft (-0) xs
      else if n ≤ 128 then
        let (sums, rest) := lanes n (xs.take 8) (xs.drop 8)
        fromLeft (join sums) rest
      else
        let half := n / 2 - n / 2 % 8
        go fuel (xs.take half) + go fuel (xs.drop half)

end MathProg.Summation
