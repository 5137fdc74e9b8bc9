import MathProg.Function.Text
import MathProg.Proofs.Formula.Expanded
import MathProg.Proofs.Formula.Polynomial
import MathProg.Proofs.Function.Canonical

/-!
# Functions as polynomials

An affine or quadratic function is written as a polynomial: its pairs, its terms and its constant,
which is left out when it is zero and something else stands there. The function of the polynomial is
the one that was written, up to the sign of a zero constant.
-/

namespace MathProg

open Formula FloatLaws

/-- The affine function as a quadratic one without pairs. -/
def Affine.toQuadratic {K : Type} (f : Affine K) : Quadratic K :=
  ⟨[], f.terms, f.constant⟩

namespace Quadratic

/-- A canonical sum over `n` variables whose numbers are written without an exponent. It may have no
pairs. -/
structure IsWritable (n : Nat) (f : Quadratic Float) : Prop where
  pairs : Terms.IsCanonical f.pairs
  terms : Terms.IsCanonical f.terms
  ordered : ∀ t ∈ f.pairs, t.1.first ≤ t.1.second
  pairsDeclared : ∀ t ∈ f.pairs, 0 ≤ t.1.first ∧ t.1.second < n
  termsDeclared : ∀ t ∈ f.terms, 0 ≤ t.1 ∧ t.1 < n
  pairsPositional : ∀ t ∈ f.pairs, IsPositional t.2
  termsPositional : ∀ t ∈ f.terms, IsPositional t.2
  constantPositional : IsPositional f.constant

/-- Whether the constant is written. -/
def showsConstant (f : Quadratic Float) : Bool :=
  f.constant != 0.0 || (f.pairs.isEmpty && f.terms.isEmpty)

/-- The sum as it is written. -/
def monomials (f : Quadratic Float) : Polynomial Float :=
  f.pairs.map (fun t => (.pair t.1, t.2)) ++ f.terms.map (fun t => (.linear t.1.toNat, t.2)) ++
    if f.showsConstant then [(.one, f.constant)] else []

/-- The sum as it is read. -/
def written (f : Quadratic Float) : Quadratic Float :=
  { f with constant := if f.showsConstant then f.constant else 0 }

variable {n : Nat} {f : Quadratic Float}

theorem pairs_monomials (f : Quadratic Float) : Polynomial.pairs (monomials f) = f.pairs := by
  unfold monomials Polynomial.pairs
  split <;> simp [List.filterMap_append]

theorem linear_monomials (h : f.IsWritable n) : Polynomial.linear (monomials f) = f.terms := by
  have back : f.terms.map (fun t => (max t.1 0, t.2)) = f.terms :=
    (List.map_congr_left fun t mem => by
      rw [max_eq_left (h.termsDeclared t mem).1, id]).trans (List.map_id _)
  unfold monomials Polynomial.linear
  split <;> simpa [List.filterMap_append] using back

theorem constantTerm_monomials (f : Quadratic Float) :
    (monomials f).constantTerm = f.written.constant := by
  have behind : ∀ p : Polynomial Float, (∀ t ∈ p, t.1 ≠ .one) → ∀ q : Polynomial Float,
      Polynomial.constantTerm (p ++ q) = Polynomial.constantTerm q := by
    intro p other q
    rw [Polynomial.constantTerm, Polynomial.constantTerm, Terms.coefficient, Terms.coefficient,
      List.lookup_append]
    have none : p.lookup .one = none := List.lookup_eq_none_iff.2 fun t mem => by
      simpa using (other t mem).symm
    rw [none, Option.none_or]
  unfold monomials
  rw [behind _ (by simp; grind)]
  unfold written
  split <;> rfl

/-- The function of the monomials. -/
theorem toFunction_monomials (h : f.IsWritable n) : (monomials f).toFunction =
    if f.pairs.isEmpty then .affine ⟨f.terms, f.written.constant⟩ else .quadratic f.written := by
  change Function.canonicalQuadratic (Polynomial.pairs (monomials f))
    (Polynomial.linear (monomials f)) (monomials f).constantTerm = _
  rw [pairs_monomials, linear_monomials h, constantTerm_monomials, Function.canonicalQuadratic,
    Terms.canonical_of_isCanonical h.pairs, Terms.canonical_of_isCanonical h.terms]
  rfl

/-- A monomial that is written stands for a pair, for a term or for the constant. -/
theorem mem_monomials {t : Monomial × Float} (mem : t ∈ monomials f) :
    (∃ u ∈ f.pairs, t = (.pair u.1, u.2)) ∨ (∃ u ∈ f.terms, t = (.linear u.1.toNat, u.2)) ∨
      f.showsConstant = true ∧ t = (.one, f.constant) := by
  rcases List.mem_append.1 mem with mem | mem
  · rcases List.mem_append.1 mem with mem | mem
    · obtain ⟨u, inside, rfl⟩ := List.mem_map.1 mem
      exact .inl ⟨u, inside, rfl⟩
    · obtain ⟨u, inside, rfl⟩ := List.mem_map.1 mem
      exact .inr (.inl ⟨u, inside, rfl⟩)
  · split at mem
    · exact .inr (.inr ⟨‹_›, List.mem_singleton.1 mem⟩)
    · simp at mem

theorem monomials_ne_nil (f : Quadratic Float) : monomials f ≠ [] := by
  intro none
  simp only [monomials, List.append_eq_nil_iff, List.map_eq_nil_iff] at none
  obtain ⟨⟨noPairs, noTerms⟩, hidden⟩ := none
  have visible : f.showsConstant = true := by simp [showsConstant, noPairs, noTerms]
  simp [visible] at hidden

/-- Variables that are declared stay apart as positions. -/
theorem nodup_linear (h : f.IsWritable n) :
    (f.terms.map fun t => Monomial.linear t.1.toNat).Nodup := by
  have keys := h.terms.nodup_keys.map_on (f := fun v => Monomial.linear v.toNat) (by
    intro v first w second same
    obtain ⟨t, memT, rfl⟩ := List.mem_map.1 first
    obtain ⟨u, memU, rfl⟩ := List.mem_map.1 second
    have := h.termsDeclared t memT
    have := h.termsDeclared u memU
    have := Monomial.linear.inj same
    omega)
  rwa [List.map_map] at keys

theorem nodup_monomials (h : f.IsWritable n) : ((monomials f).map Prod.fst).Nodup := by
  have pairs : (f.pairs.map fun t => Monomial.pair t.1).Nodup := by
    have keys := h.pairs.nodup_keys.map (f := Monomial.pair) fun p q same => by simpa using same
    rwa [List.map_map] at keys
  have constant : (if f.showsConstant then [(Monomial.one, f.constant)] else []).map Prod.fst =
      if f.showsConstant then [Monomial.one] else [] := by
    split <;> rfl
  rw [monomials, List.map_append, List.map_append, List.map_map, List.map_map, constant]
  refine (pairs.append (nodup_linear h) ?_).append (by split <;> simp) ?_
  · intro m first second
    obtain ⟨t, -, rfl⟩ := List.mem_map.1 first
    obtain ⟨u, -, same⟩ := List.mem_map.1 second
    simp at same
  · intro m first second
    have one : m = .one := by
      split at second
      · simpa using second
      · simp at second
    simp [one] at first

theorem isWritten_monomials (h : f.IsWritable n) : (monomials f).IsWritten n where
  filled := monomials_ne_nil f
  distinct := nodup_monomials h
  nonzero := by
    intro t mem
    rcases mem_monomials mem with ⟨u, inside, rfl⟩ | ⟨u, inside, rfl⟩ | ⟨visible, rfl⟩
    · exact .inl (h.pairs.nonzero u inside)
    · exact .inl (h.terms.nonzero u inside)
    · simp only [showsConstant, Bool.or_eq_true, Bool.and_eq_true, List.isEmpty_iff] at visible
      -- A constant zero is written only where it is all that there is.
      refine visible.imp_right fun ⟨noPairs, noTerms⟩ => ?_
      simp [monomials, showsConstant, noPairs, noTerms]
  positional := by
    intro t mem
    rcases mem_monomials mem with ⟨u, inside, rfl⟩ | ⟨u, inside, rfl⟩ | ⟨-, rfl⟩
    · exact h.pairsPositional u inside
    · exact h.termsPositional u inside
    · exact h.constantPositional
  declared := by
    intro t mem
    rcases mem_monomials mem with ⟨u, inside, rfl⟩ | ⟨u, inside, rfl⟩ | ⟨-, rfl⟩
    · exact ⟨(h.pairsDeclared u inside).1, h.ordered u inside, (h.pairsDeclared u inside).2⟩
    · have := h.termsDeclared u inside
      change u.1.toNat < n
      omega
    · trivial

end Quadratic

end MathProg
