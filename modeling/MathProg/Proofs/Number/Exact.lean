import Mathlib
import MathProg.Number.Basic

/-!
# Exact numbers

Written numbers are exact over coefficients if every number is a coefficient and nothing is lost on
the way. Rational numbers are exact over themselves; the floats are not.
-/

namespace MathProg

/-- Numbers that are coefficients without loss. -/
class ExactNumeral (N K : Type) [Ring K] [Numeral N K] : Prop where
  toCoefficient_ofCoefficient : ∀ c : K, Numeral.toCoefficient (Numeral.ofCoefficient c : N) = .ok c
  toCoefficient_neg : ∀ (n : N) (c : K), Numeral.toCoefficient n = .ok c →
    Numeral.toCoefficient (Numeral.neg n) = .ok (-c)
  toCoefficient_sub : ∀ (m n : N) (c d : K), Numeral.toCoefficient m = .ok c →
    Numeral.toCoefficient n = .ok d →
    ∃ difference : N, Numeral.sub m n = .ok difference ∧
      Numeral.toCoefficient difference = .ok (c - d)
  toCoefficient_ofInt : ∀ n : Int, Numeral.toCoefficient (Numeral.ofInt n : N) = .ok (n : K)
  exists_toCoefficient : ∀ n : N, ∃ c : K, Numeral.toCoefficient n = .ok c
  isInt_iff : ∀ (n : N) (k : Int), Numeral.isInt n k = true ↔ Numeral.toCoefficient n = .ok (k : K)

namespace Numeral

variable {N K : Type} [Ring K] [Numeral N K]

/-- The coefficient that a number is; zero if it is none. -/
def value (n : N) : K :=
  match toCoefficient n with
  | .ok c => c
  | .error _ => 0

theorem value_of_toCoefficient {n : N} {c : K} (h : toCoefficient n = .ok c) : value n = c := by
  rw [value, h]

variable [ExactNumeral N K]

theorem toCoefficient_eq (n : N) : toCoefficient n = .ok (value n) := by
  obtain ⟨c, hc⟩ := ExactNumeral.exists_toCoefficient (K := K) n
  rw [hc, value_of_toCoefficient hc]

@[simp] theorem value_ofCoefficient (c : K) : value (ofCoefficient c : N) = c :=
  value_of_toCoefficient (ExactNumeral.toCoefficient_ofCoefficient c)

@[simp] theorem value_ofInt (k : Int) : (value (ofInt k : N) : K) = k :=
  value_of_toCoefficient (ExactNumeral.toCoefficient_ofInt k)

theorem value_sub {m n d : N} (h : sub m n = .ok d) : value d = value m - value n := by
  obtain ⟨e, he, value⟩ := ExactNumeral.toCoefficient_sub m n _ _ (toCoefficient_eq m)
    (toCoefficient_eq n)
  cases h.symm.trans he
  exact value_of_toCoefficient value

theorem value_of_isInt {n : N} {k : Int} (h : isInt n k) : (value n : K) = k :=
  value_of_toCoefficient ((ExactNumeral.isInt_iff n k).1 h)

end Numeral

/-- Coefficients that are read from text without loss. -/
class ExactText (K : Type) [TextNumber K] : Prop where
  exists_ofLiteral : ∀ l : Literal, ∃ c : K, TextNumber.ofLiteral l = .ok c

/-! ## Rational numbers -/

/-- The value of a literal. -/
def Literal.value : Literal → ℚ
  | integer n => n
  | decimal digits exponent => digits * 10 ^ exponent

instance : TextNumber ℚ where
  ofLiteral l := .ok l.value
  truncate q := .ok (if 0 ≤ q then ⌊q⌋ else ⌈q⌉)

instance : Numeral ℚ ℚ where
  toCoefficient := .ok
  ofCoefficient q := q
  sub a b := .ok (a - b)
  neg a := -a
  isInt a n := a == n
  le a b := decide (a ≤ b)
  square a := a * a
  triangular a := ⌊a * (a + 1) / 2⌋
  integer? a := if a.den = 1 then some a.num else none
  ofInt n := n
  kindName _ := "Fraction"
  text a := toString a

instance : ExactText ℚ where
  exists_ofLiteral l := ⟨l.value, rfl⟩

instance : ExactNumeral ℚ ℚ where
  toCoefficient_ofCoefficient _ := rfl
  toCoefficient_neg _ _ h := by
    cases h
    rfl
  toCoefficient_sub _ _ _ _ h h' := by
    cases h
    cases h'
    exact ⟨_, rfl, rfl⟩
  toCoefficient_ofInt _ := rfl
  exists_toCoefficient q := ⟨q, rfl⟩
  isInt_iff a k := by
    change (a == (k : ℚ)) = true ↔ Except.ok a = Except.ok (k : ℚ)
    rw [beq_iff_eq, Except.ok.injEq]

end MathProg
