import MathProg.Proofs.Function.Value
import MathProg.Proofs.Representation.Structural

/-!
# Uniqueness of canonical functions

A canonical function is a normal form: two sums, each in any order, with any repetitions and with
the factors of a product in either order, get the same canonical function exactly if they have the
same value wherever their variables are put.

The coefficients are recovered from values at few points. Where one variable is `1` and the others
are `0`, the value is the constant, the coefficient of the variable and that of its square; at the
opposite point the coefficient of the variable changes its sign; and where two variables are `1`, the
coefficient of their product is added.
-/

namespace MathProg

variable {K : Type}

/-- A sum of products, of terms and of a constant as it is written down. -/
structure LooseSum (K : Type) where
  products : List ((Int × Int) × K)
  terms : List (Int × K)
  constant : K

namespace LooseSum

/-- The products, each with the smaller variable first. -/
def pairs (s : LooseSum K) : List (VariablePair × K) :=
  s.products.map (fun t => (.of t.1.1 t.1.2, t.2))

/-- The canonical function of the sum. -/
def toFunction [Zero K] [Add K] [BEq K] (s : LooseSum K) : Function K :=
  .canonicalQuadratic s.pairs s.terms s.constant

/-- The canonical function of the sum without its products. -/
def toAffine [Zero K] [Add K] [BEq K] (s : LooseSum K) : Affine K :=
  .canonical s.terms s.constant

variable [CommRing K]

/-- The value of the terms and the constant. -/
def linearValue (x : Int → K) (s : LooseSum K) : K :=
  s.constant + Terms.value x s.terms

/-- The value of the sum, with the products as they are written. -/
def value (x : Int → K) (s : LooseSum K) : K :=
  s.linearValue x + Terms.value (fun p => x p.1 * x p.2) s.products

/-! ## Pairs -/

omit [CommRing K] in
theorem ordered_pairs (s : LooseSum K) : ∀ t ∈ s.pairs, t.1.first ≤ t.1.second := by
  intro t ht
  obtain ⟨u, -, rfl⟩ := List.mem_map.1 ht
  exact VariablePair.first_le_second _ _

/-- The value of the products at a point. -/
def square (x : Int → K) (pairs : List (VariablePair × K)) : K :=
  Terms.value (fun p => x p.first * x p.second) pairs

theorem square_pairs (x : Int → K) (s : LooseSum K) :
    square x s.pairs = Terms.value (fun p => x p.1 * x p.2) s.products := by
  rw [square, pairs, Terms.value_map_key (fun p : Int × Int => VariablePair.of p.1 p.2)]
  refine Terms.value_congr fun t _ => ?_
  unfold VariablePair.of
  split
  · rfl
  · exact mul_comm _ _

theorem value_eq (x : Int → K) (s : LooseSum K) :
    s.value x = s.constant + Terms.value x s.terms + square x s.pairs := by
  rw [value, linearValue, square_pairs]

/-! ## Values at few points -/

open Terms

variable {pairs : List (VariablePair × K)}

theorem square_zero : square (fun _ => 0) pairs = 0 := by
  simp only [square, mul_zero, value_zero_weight]

theorem square_neg (x : Int → K) : square (fun v => -1 * x v) pairs = square x pairs := by
  refine value_congr fun t _ => ?_
  ring

/-- Where one variable is `1`, the products count its square. -/
theorem square_one (i : Int) : square (only i) pairs = Terms.value (only ⟨i, i⟩) pairs := by
  refine value_congr fun t _ => ?_
  obtain ⟨⟨v, w⟩, c⟩ := t
  simp only [only, VariablePair.mk.injEq, mul_ite, mul_one, mul_zero]
  grind

/-- Where two variables are `1`, the products count both squares and their product. -/
theorem square_two (ordered : ∀ t ∈ pairs, t.1.first ≤ t.1.second) {i j : Int} (below : i < j) :
    square (fun v => only i v + only j v) pairs
      = square (only i) pairs + square (only j) pairs + Terms.value (only ⟨i, j⟩) pairs := by
  rw [square_one, square_one, ← value_add_weight, ← value_add_weight]
  refine value_congr fun t ht => ?_
  have first := ordered t ht
  obtain ⟨⟨v, w⟩, c⟩ := t
  -- the pair with `j` in front is not ordered, so that each of the three counts in one case
  simp only [only, VariablePair.mk.injEq] at first ⊢
  by_cases hv : v = i
  · subst hv
    have apart : v ≠ j := Int.ne_of_lt below
    by_cases hw : w = v <;> simp [hw, apart]
  · by_cases hv' : v = j
    · subst hv'
      have apart : w ≠ i := by omega
      simp [hv, apart]
    · simp [hv, hv']

/-! ## The coefficients -/

section Coefficients

variable {s t : LooseSum K}

theorem constant_eq (same : ∀ x, s.value x = t.value x) : s.constant = t.constant := by
  have origin := same fun _ => 0
  simpa only [value_eq, value_zero_weight, square_zero, add_zero] using origin

theorem linear_eq (same : ∀ x, s.linearValue x = t.linearValue x) :
    s.constant = t.constant ∧ ∀ i, Terms.value (only i) s.terms = Terms.value (only i) t.terms := by
  have origin := same fun _ => 0
  simp only [linearValue, value_zero_weight, add_zero] at origin
  refine ⟨origin, fun i => ?_⟩
  have unit := same (only i)
  simp only [linearValue, origin] at unit
  exact add_left_cancel unit

variable [NoZeroDivisors K] [CharZero K]

theorem terms_and_square_eq (same : ∀ x, s.value x = t.value x) (i : Int) :
    Terms.value (only i) s.terms = Terms.value (only i) t.terms ∧
      square (only i) s.pairs = square (only i) t.pairs := by
  have forth := same (only i)
  have back := same fun v => -1 * only i v
  simp only [value_eq, constant_eq same, value_mul_weight, square_neg] at forth back
  -- The products are even, so the difference of the two points leaves twice the term.
  have twice : 2 * Terms.value (only i) s.terms = 2 * Terms.value (only i) t.terms := by
    linear_combination forth - back
  have terms := mul_left_cancel₀ two_ne_zero twice
  refine ⟨terms, ?_⟩
  linear_combination forth - terms

theorem product_eq (same : ∀ x, s.value x = t.value x) {i j : Int} (below : i < j) :
    Terms.value (only ⟨i, j⟩) s.pairs = Terms.value (only ⟨i, j⟩) t.pairs := by
  obtain ⟨one, square_i⟩ := terms_and_square_eq same i
  obtain ⟨other, square_j⟩ := terms_and_square_eq same j
  have both := same fun v => only i v + only j v
  simp only [value_eq, constant_eq same, value_add_weight, square_two s.ordered_pairs below,
    square_two t.ordered_pairs below, one, other, square_i, square_j] at both
  linear_combination both

theorem pairs_eq (same : ∀ x, s.value x = t.value x) (p : VariablePair) :
    Terms.value (only p) s.pairs = Terms.value (only p) t.pairs := by
  obtain ⟨i, j⟩ := p
  rcases lt_trichotomy i j with below | rfl | above
  · exact product_eq same below
  · rw [← square_one, ← square_one]
    exact (terms_and_square_eq same i).2
  · -- Pairs are ordered, so no sum has this one.
    have absent (u : LooseSum K) : Terms.value (only ⟨i, j⟩) u.pairs = 0 := by
      refine value_only_of_absent fun r hr key => ?_
      have ordered := u.ordered_pairs r hr
      rw [key] at ordered
      exact absurd above (Int.not_lt.2 ordered)
    rw [absent, absent]

end Coefficients

/-! ## Canonical functions -/

variable [BEq K] [LawfulBEq K]

theorem evaluate_toFunction (s : LooseSum K) (x : Int → K) :
    s.toFunction.evaluate (.point x) = some (.scalar (s.value x)) := by
  rw [value_eq]
  exact Function.evaluate_canonicalQuadratic_at rfl _ _ _

theorem evaluate_toAffine (s : LooseSum K) (x : Int → K) :
    (Function.affine s.toAffine).evaluate (.point x) = some (.scalar (s.linearValue x)) := by
  rw [Function.evaluate_affine_at rfl, toAffine, Affine.canonical, value_canonical, linearValue]

variable {s t : LooseSum K}

theorem toAffine_eq_iff :
    s.toAffine = t.toAffine ↔ ∀ x, s.linearValue x = t.linearValue x := by
  constructor
  · intro same x
    have values := s.evaluate_toAffine x
    rw [same, evaluate_toAffine] at values
    exact (Shaped.scalar.inj (Option.some.inj values)).symm
  · intro same
    obtain ⟨constant, terms⟩ := linear_eq same
    rw [toAffine, toAffine, Affine.canonical, canonical_eq_iff.2 terms, constant]
    rfl

variable [NoZeroDivisors K] [CharZero K]

theorem toFunction_eq_iff : s.toFunction = t.toFunction ↔ ∀ x, s.value x = t.value x := by
  constructor
  · intro same x
    have values := s.evaluate_toFunction x
    rw [same, evaluate_toFunction] at values
    exact (Shaped.scalar.inj (Option.some.inj values)).symm
  · intro same
    have pairs := canonical_eq_iff.2 (pairs_eq same)
    have terms := canonical_eq_iff.2 fun i => (terms_and_square_eq same i).1
    rw [toFunction, toFunction, Function.canonicalQuadratic, pairs, terms, constant_eq same]
    rfl

/-- The canonical function is affine if the sum has the values of one without products, whatever
products have been written. -/
theorem toFunction_affine_iff : (∃ f, s.toFunction = .affine f) ↔
    ∃ u : LooseSum K, u.products = [] ∧ ∀ x, s.value x = u.value x := by
  constructor
  · rintro ⟨f, turned⟩
    refine ⟨⟨[], f.terms, f.constant⟩, rfl, fun x => ?_⟩
    have values := s.evaluate_toFunction x
    rw [turned, Function.evaluate_affine_at rfl] at values
    rw [← Shaped.scalar.inj (Option.some.inj values), value, value_nil, add_zero, linearValue]
  · rintro ⟨⟨_, terms, c⟩, rfl, same⟩
    exact ⟨⟨canonical terms, c⟩, toFunction_eq_iff.2 same⟩

/-- Canonical functions are unique. -/
theorem canonical_unique (s t : LooseSum K) :
    (s.toFunction.IsCanonical ∧
      ((∃ f, s.toFunction = .affine f) ∨ ∃ f, s.toFunction = .quadratic f) ∧
      ((∃ f, s.toFunction = .affine f) ↔
        ∃ u : LooseSum K, u.products = [] ∧ ∀ x, s.value x = u.value x) ∧
      (∀ x, s.toFunction.evaluate (.point x) = some (.scalar (s.value x))) ∧
      (s.toFunction = t.toFunction ↔ ∀ x, s.value x = t.value x) ∧
      ((s.toFunction == t.toFunction) = true ↔ ∀ x, s.value x = t.value x)) ∧
    s.toAffine.IsCanonical ∧
      (∀ x, (Function.affine s.toAffine).evaluate (.point x) = some (.scalar (s.linearValue x))) ∧
      (s.toAffine = t.toAffine ↔ ∀ x, s.linearValue x = t.linearValue x) ∧
      ((Function.affine s.toAffine == .affine t.toAffine) = true ↔
        ∀ x, s.linearValue x = t.linearValue x) := by
  refine ⟨⟨Function.isCanonical_canonicalQuadratic s.ordered_pairs, Function.canonicalQuadratic_cases _ _ _,
    toFunction_affine_iff, evaluate_toFunction s, toFunction_eq_iff, ?_⟩,
    isCanonical_canonical s.terms, evaluate_toAffine s, toAffine_eq_iff, ?_⟩
  · rw [beq_iff_eq]
    exact toFunction_eq_iff
  · rw [beq_iff_eq, Function.affine.injEq]
    exact toAffine_eq_iff

/-- Both `3 x₂² + x₀ + x₁ + 5`, the first with a product that cancels and a term in two parts. -/
def tangled : LooseSum ℚ :=
  ⟨[((1, 0), 2), ((2, 2), 3), ((0, 1), -2)], [(1, 1 / 2), (0, 1), (1, 1 / 2)], 5⟩

@[inherit_doc tangled]
def plain : LooseSum ℚ :=
  ⟨[((2, 2), 3)], [(0, 1), (1, 1)], 5⟩

theorem canonical_unique_tangled :
    tangled.toFunction = plain.toFunction ∧ tangled.toAffine = plain.toAffine ∧
      tangled.toFunction ≠ { plain with products := [] }.toFunction := by
  obtain ⟨⟨-, -, -, -, same, -⟩, -, -, linear, -⟩ := canonical_unique tangled plain
  obtain ⟨⟨-, -, -, -, shorter, -⟩, -⟩ := canonical_unique tangled { plain with products := [] }
  refine ⟨same.2 fun x => ?_, linear.2 fun x => ?_, fun equal => ?_⟩
  · simp only [value, linearValue, tangled, plain, value_cons, value_nil]
    ring
  · simp only [linearValue, tangled, plain, value_cons, value_nil]
    ring
  · have ones := shorter.1 equal fun _ => 1
    norm_num [value, linearValue, tangled, plain] at ones

end LooseSum

end MathProg
