import MathProg.Expression.Arithmetic
import MathProg.Model.Represent
import MathProg.Proofs.Formula.Polynomial
import MathProg.Proofs.Function.Canonical

/-!
# Values of expressions at weights of monomials

Affine and quadratic expressions are weighed like polynomials: every monomial over the indices of
the variables has a weight. Each operation has the value that it should have, however it arranges
its terms.
-/

namespace MathProg

open Formula (Monomial)
open Formula.Polynomial (times)

variable {N K : Type} [CommRing K]

/-! ## Affine expressions -/

namespace LinearExpr

/-- The value of an affine expression at weights of monomials. -/
def weigh (w : Monomial → K) (e : LinearExpr K) : K :=
  Terms.value (fun v => w (.linear v.index)) e.terms + e.constant * w .one

variable (w : Monomial → K) (e f : LinearExpr K) (c : K)

@[simp] theorem weigh_ofConstant : (ofConstant c).weigh w = c * w .one := by
  simp [weigh, ofConstant]

@[simp] theorem weigh_ofVariable (v : VariableRef) :
    (ofVariable v : LinearExpr K).weigh w = w (.linear v.index) := by
  simp [weigh, ofVariable]

@[simp] theorem weigh_copy : e.copy.weigh w = e.weigh w := by
  simp [copy, ofTerms, weigh]

@[simp] theorem weigh_addConstant : (e.addConstant c).weigh w = e.weigh w + c * w .one := by
  simp only [addConstant, ofTerms, weigh, Terms.value_addAll, Terms.value_nil]
  ring

@[simp] theorem weigh_add : (e.add f).weigh w = e.weigh w + f.weigh w := by
  simp only [add, weigh, Terms.value_addAll, Terms.value_nil]
  ring

@[simp] theorem weigh_neg : e.neg.weigh w = -e.weigh w := by
  simp only [neg, ofTerms, weigh, Terms.value_addAll, Terms.value_nil, Terms.value_neg]
  ring

@[simp] theorem weigh_sub : (e.sub f).weigh w = e.weigh w - f.weigh w := by
  simp only [sub, weigh_add, weigh_neg, weigh_copy]
  ring

@[simp] theorem weigh_scale (k : K) : (e.scale k).weigh w = k * e.weigh w := by
  simp only [scale, ofTerms, weigh, Terms.value_addAll, Terms.value_nil, Terms.value_scale]
  ring

/-- The products of all terms have the products of the values. -/
theorem value_mulTerms (u : ReferencePair → K) :
    Terms.value u (e.mulTerms f)
      = Terms.value (fun v => Terms.value (fun x => u (.of v x)) f.terms) e.terms := by
  have inner (v : VariableRef) (c : K) (terms : List (VariableRef × K))
      (sum : List (ReferencePair × K)) :
      Terms.value u (terms.foldl (fun sum t => Terms.add (.of v t.1) (c * t.2) sum) sum)
        = Terms.value u sum + c * Terms.value (fun x => u (.of v x)) terms := by
    induction terms generalizing sum with
    | nil => simp
    | cons t terms ih =>
      rw [List.foldl_cons, ih, Terms.value_add, Terms.value_cons]
      ring
  have outer (terms : List (VariableRef × K)) (sum : List (ReferencePair × K)) :
      Terms.value u (terms.foldl (fun sum s =>
        f.terms.foldl (fun sum t => Terms.add (.of s.1 t.1) (s.2 * t.2) sum) sum) sum)
        = Terms.value u sum
          + Terms.value (fun v => Terms.value (fun x => u (.of v x)) f.terms) terms := by
    induction terms generalizing sum with
    | nil => simp
    | cons t terms ih =>
      rw [List.foldl_cons, ih, inner, Terms.value_cons]
      ring
  have whole := outer e.terms []
  rw [Terms.value_nil, zero_add] at whole
  exact whole

end LinearExpr

/-! ## Quadratic expressions -/

/-- The pair of the indices. -/
def ReferencePair.indices (p : ReferencePair) : VariablePair :=
  .of p.first.index p.second.index

theorem ReferencePair.indices_of (v x : VariableRef) :
    (ReferencePair.of v x).indices = .of v.index x.index := by
  unfold ReferencePair.of indices
  split
  · rfl
  · exact VariablePair.of_comm _ _

namespace QuadraticExpr

/-- The value of a quadratic expression at weights of monomials. -/
def weigh (w : Monomial → K) (e : QuadraticExpr K) : K :=
  Terms.value (fun p => w (.pair p.indices)) e.pairs + e.linear.weigh w

variable (w : Monomial → K) (e f : QuadraticExpr K) (g : LinearExpr K) (c : K)

@[simp] theorem weigh_ofLinear : (ofLinear g).weigh w = g.weigh w := by
  simp [weigh, ofLinear]

@[simp] theorem weigh_copy : e.copy.weigh w = e.weigh w := by
  simp [copy, ofPairs, weigh]

@[simp] theorem weigh_addLinear : (e.addLinear g).weigh w = e.weigh w + g.weigh w := by
  simp only [addLinear, ofPairs, weigh, Terms.value_addAll, Terms.value_nil,
    LinearExpr.weigh_copy, LinearExpr.weigh_add]
  ring

@[simp] theorem weigh_addConstant : (e.addConstant c).weigh w = e.weigh w + c * w .one := by
  simp only [addConstant, ofPairs, weigh, Terms.value_addAll, Terms.value_nil,
    LinearExpr.weigh_copy, LinearExpr.weigh_addConstant]
  ring

@[simp] theorem weigh_add : (e.add f).weigh w = e.weigh w + f.weigh w := by
  simp only [add, weigh, Terms.value_addAll, Terms.value_nil, LinearExpr.weigh_copy,
    LinearExpr.weigh_add]
  ring

@[simp] theorem weigh_scale (k : K) : (e.scale k).weigh w = k * e.weigh w := by
  simp only [scale, ofPairs, weigh, Terms.value_addAll, Terms.value_nil, Terms.value_scale,
    LinearExpr.weigh_copy, LinearExpr.weigh_scale]
  ring

@[simp] theorem weigh_neg : e.neg.weigh w = -e.weigh w := by
  simp [neg]

@[simp] theorem weigh_sub : (e.sub f).weigh w = e.weigh w - f.weigh w := by
  simp only [sub, weigh_add, weigh_neg, weigh_copy]
  ring

end QuadraticExpr

/-- A product of affine expressions has the value of the product of their polynomials. -/
theorem LinearExpr.weigh_mul (w : Monomial → K) (e f : LinearExpr K) :
    (e.mul f).weigh w = e.weigh (fun m => f.weigh (times w m)) := by
  have product (v x : VariableRef) :
      times w (.linear v.index) (.linear x.index) = w (.pair (.of v.index x.index)) := rfl
  have left (n : Monomial) : times w .one n = w n := rfl
  have right (v : VariableRef) : times w (.linear v.index) .one = w (.linear v.index) := rfl
  have pairs : Terms.value (fun p => w (.pair p.indices)) (e.mulTerms f)
      = Terms.value (fun v => Terms.value (fun x => times w (.linear v.index) (.linear x.index))
          f.terms) e.terms := by
    rw [value_mulTerms]
    simp only [ReferencePair.indices_of, product]
  have mixed : Terms.value (fun v => f.constant * w (.linear v.index)) e.terms
      = f.constant * Terms.value (fun v => w (.linear v.index)) e.terms :=
    Terms.value_mul_weight _ _ _
  simp only [QuadraticExpr.weigh, LinearExpr.mul, pairs, weigh, Terms.value_addAll,
    Terms.value_scale, Terms.value_nil, left, right, Terms.value_add_weight, mixed]
  ring

end MathProg
