import MathProg.Proofs.Formula.Written
import MathProg.Proofs.Model.Call
import MathProg.Proofs.Model.Represent
import MathProg.Representation.Reader

/-!
# Functions of sums

An expression and a polynomial with the same values have the same canonical function. Moving the
constant into a set, as a model does with the expression and a reader with the function, keeps it so.
-/

namespace MathProg

open Fallible
open Formula (Monomial)

variable {N K : Type} [CommRing K] [BEq K]

/-! ## Canonical functions -/

/-- The function of a polynomial with another constant. -/
def Formula.Polynomial.functionWith (p : Formula.Polynomial K) (c : K) : Function K :=
  Function.canonicalQuadratic p.pairs p.linear c

theorem Formula.Polynomial.functionWith_constantTerm (p : Formula.Polynomial K) :
    p.functionWith p.constantTerm = p.toFunction :=
  rfl

namespace Function

variable {pairs : List (VariablePair × K)} {terms : List (Int × K)} {c : K}

@[simp] theorem constantPart_canonicalQuadratic :
    (canonicalQuadratic pairs terms c).constantPart = c := by
  unfold canonicalQuadratic
  simp only
  split <;> rfl

@[simp] theorem withoutConstant_canonicalQuadratic :
    (canonicalQuadratic pairs terms c).withoutConstant = canonicalQuadratic pairs terms 0 := by
  unfold canonicalQuadratic
  simp only
  split <;> rfl

end Function

section Values

variable [LawfulBEq K] {p : Formula.Polynomial K}

theorem LinearExpr.affine_toAffine {e : LinearExpr K}
    (same : ∀ w, w .one = 0 → e.weigh w = Terms.value w p) :
    .affine e.toAffine = p.functionWith e.constant := by
  have pairs : Terms.canonical p.pairs = [] :=
    Terms.canonical_congr (K := K) (fun w => by
      rw [Formula.Polynomial.value_pairs, ← same _ rfl]
      simp [weigh, Terms.value_zero_weight] : ∀ w, Terms.value w p.pairs = Terms.value w [])
  have linear : Terms.canonical (e.terms.map (fun t => ((t.1.index : Int), t.2)))
      = Terms.canonical p.linear :=
    Terms.canonical_congr fun w => by
      rw [Formula.Polynomial.value_linear, ← same _ rfl,
        Terms.value_map_key (fun v : VariableRef => (v.index : Int))]
      simp [weigh]
  simp only [Formula.Polynomial.functionWith, Function.canonicalQuadratic, pairs, toAffine,
    Affine.canonical, linear]
  rfl

theorem QuadraticExpr.toFunction_eq {e : QuadraticExpr K}
    (same : ∀ w, w .one = 0 → e.weigh w = Terms.value w p) :
    e.toFunction = p.functionWith e.linear.constant := by
  have pairs : Terms.canonical (e.pairs.map (fun t => (t.1.indices, t.2)))
      = Terms.canonical p.pairs :=
    Terms.canonical_congr fun w => by
      rw [Formula.Polynomial.value_pairs, ← same _ rfl, Terms.value_map_key ReferencePair.indices]
      simp [weigh, LinearExpr.weigh, Terms.value_zero_weight]
  have linear : Terms.canonical (e.linear.terms.map (fun t => ((t.1.index : Int), t.2)))
      = Terms.canonical p.linear :=
    Terms.canonical_congr fun w => by
      rw [Formula.Polynomial.value_linear, ← same _ rfl,
        Terms.value_map_key (fun v : VariableRef => (v.index : Int))]
      simp [weigh, LinearExpr.weigh, Terms.value_zero_weight]
  unfold ReferencePair.indices at pairs
  simp only [Formula.Polynomial.functionWith, Function.canonicalQuadratic, toFunction, pairs,
    linear]

end Values

/-! ## Moving the constant -/

namespace Expression

/-- Whether an expression over certain variables has the values of a polynomial. -/
inductive IsSum (P : VariableRef → Prop) (p : Formula.Polynomial K) : Expression N K → Prop
  | linear {e : LinearExpr K} (known : e.Over P) (same : ∀ w, e.weigh w = Terms.value w p) :
    IsSum P p (.linear e)
  | quadratic {e : QuadraticExpr K} (known : e.Over P)
    (same : ∀ w, e.weigh w = Terms.value w p) : IsSum P p (.quadratic e)

variable {P : VariableRef → Prop} {p : Formula.Polynomial K} {e : Expression N K}

omit [CommRing K] [BEq K] in
theorem occurs_linear {e : LinearExpr K} (known : e.Over P) :
    ∀ v ∈ (linear e : Expression N K).occurrences, P v :=
  known

omit [CommRing K] [BEq K] in
theorem occurs_quadratic {e : QuadraticExpr K} (known : e.Over P) :
    ∀ v ∈ (quadratic e : Expression N K).occurrences, P v := by
  intro v hv
  rcases List.mem_append.1 hv with hv | hv
  · obtain ⟨t, ht, hv⟩ := List.mem_flatMap.1 hv
    obtain ⟨first, second⟩ := known.pairs t.1 (List.mem_map_of_mem ht)
    simp only [List.mem_cons, List.not_mem_nil, or_false] at hv
    rcases hv with rfl | rfl
    · exact first
    · exact second
  · exact known.linear v hv

omit [BEq K] in
theorem IsSum.occurs (h : IsSum P p e) : ∀ v ∈ e.occurrences, P v := by
  cases h with
  | linear known same => exact occurs_linear known
  | quadratic known same => exact occurs_quadratic known

omit [BEq K] in
theorem IsSum.constantPart_eq (h : IsSum P p e) (once : (p.map Prod.fst).Nodup) :
    e.constantPart = p.constantTerm := by
  rw [Formula.Polynomial.constantTerm_eq_value once]
  cases h with
  | linear known same => simp [← same, LinearExpr.weigh, Terms.only, Terms.value_zero_weight,
      constantPart]
  | quadratic known same => simp [← same, QuadraticExpr.weigh, LinearExpr.weigh, Terms.only,
      Terms.value_zero_weight, constantPart]

variable [LawfulBEq K] [Numeral N K]

theorem IsSum.toFunction_eq (h : IsSum P p e) (once : (p.map Prod.fst).Nodup) :
    e.toFunction = .ok p.toFunction := by
  rw [← p.functionWith_constantTerm, ← h.constantPart_eq once]
  cases h with
  | linear known same => exact congrArg Except.ok (LinearExpr.affine_toAffine fun w _ => same w)
  | quadratic known same => exact congrArg Except.ok (QuadraticExpr.toFunction_eq fun w _ => same w)

/-- Without its constant, the expression has the function without its constant. -/
theorem IsSum.drop [ExactNumeral N K] (h : IsSum P p e) :
    ∃ e', e.sub (.number (Numeral.ofCoefficient e.constantPart)) = .ok e' ∧
      e'.toFunction = .ok (p.functionWith 0) ∧ ∀ v ∈ e'.occurrences, P v := by
  have read := coefficient_ok (ExactNumeral.toCoefficient_ofCoefficient (N := N) e.constantPart)
  cases h with
  | linear known same =>
    refine ⟨_, by rw [sub]; simp only [degree, read]; rfl, ?_,
      occurs_linear (known.sub (LinearExpr.over_ofConstant _))⟩
    rw [toFunction, LinearExpr.affine_toAffine (p := p) fun w zero => by simp [same, zero]]
    simp [LinearExpr.sub, LinearExpr.add, LinearExpr.neg, LinearExpr.copy, LinearExpr.ofTerms,
      LinearExpr.ofConstant, constantPart]
  | quadratic known same =>
    refine ⟨_, by rw [sub]; simp only [degree, read]; rfl, ?_,
      occurs_quadratic (known.sub (QuadraticExpr.over_ofLinear (LinearExpr.over_ofConstant _)))⟩
    rw [toFunction, QuadraticExpr.toFunction_eq (p := p) fun w zero => by
      simp [same, zero, QuadraticExpr.sub]]
    simp [QuadraticExpr.sub, QuadraticExpr.add, QuadraticExpr.neg, QuadraticExpr.scale,
      QuadraticExpr.copy, QuadraticExpr.ofPairs, QuadraticExpr.ofLinear, LinearExpr.add,
      LinearExpr.scale, LinearExpr.copy, LinearExpr.ofTerms, LinearExpr.ofConstant, constantPart]

/-- The model moves the constant with the expression as the reader does with the function. -/
theorem IsSum.fitScalar [ExactNumeral N K] [TextNumber K] (h : IsSum P p e)
    (once : (p.map Prod.fst).Nodup) (s : ConstraintSet N) :
    ∃ e' f t, s.fitScalar e = .ok (e', t) ∧ e'.toFunction = .ok f ∧
      Reader.moveConstant p.toFunction s = .ok (f, t) ∧ ∀ v ∈ e'.occurrences, P v := by
  have constant : p.toFunction.constantPart = e.constantPart := by
    rw [h.constantPart_eq once, ← p.functionWith_constantTerm]
    exact Function.constantPart_canonicalQuadratic
  unfold ConstraintSet.fitScalar Reader.moveConstant
  rw [constant]
  split
  · exact ⟨e, _, s, rfl, h.toFunction_eq once, rfl, h.occurs⟩
  · obtain ⟨e', he', function, occurs⟩ := h.drop
    obtain ⟨t, ht⟩ := s.exists_shifted (K := K) (Numeral.ofCoefficient e.constantPart)
    refine ⟨e', _, t, by simp only [he', ht]; rfl, function, ?_, occurs⟩
    rw [ht, ← p.functionWith_constantTerm]
    exact congrArg (fun f => Except.ok (f, t)) Function.withoutConstant_canonicalQuadratic

end Expression

end MathProg
