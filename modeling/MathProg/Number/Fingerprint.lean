import MathProg.Number.Basic

/-!
# Fingerprints of numbers

The fingerprint of a number is its residue modulo the prime `2 ^ 61 - 1`, with the sign of the
number. Equal numbers have equal fingerprints, be they integers or floats. A fraction has one too,
because two is invertible.
-/

namespace MathProg

namespace Fingerprint

/-- The modulus. -/
def prime : Nat :=
  pow2 61 - 1

/-- The fingerprint of infinity. -/
def infinite : Int := 314159

/-- A residue with a sign; minus one is not in use and makes way for minus two. -/
def signed (negative : Bool) (residue : Nat) : Int :=
  if negative then (if residue = 1 then -2 else -residue) else residue

/-- The fingerprint of an integer. -/
def ofInt (n : Int) : Int :=
  signed (n < 0) (n.natAbs % prime)

/-- The fingerprint of `± m · 2 ^ e`. Powers of two repeat after 61. -/
def ofFinite (negative : Bool) (m : Nat) (e : Int) : Int :=
  signed negative (m * pow2 (e.emod 61).toNat % prime)

end Fingerprint

/-- The fingerprint of a number. What is not a number has none. -/
def Number.fingerprint? : Number → Option Int
  | integer n => some (Fingerprint.ofInt n)
  | real x =>
    match Binary64.decode x with
    | .finite negative m e => some (Fingerprint.ofFinite negative m e)
    | .infinite negative =>
      some (if negative then -Fingerprint.infinite else Fingerprint.infinite)
    | .notANumber => none

end MathProg
