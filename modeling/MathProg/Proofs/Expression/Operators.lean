import MathProg.ErrorReport
import MathProg.Expression.Elementwise
import MathProg.Proofs.Backend.NodeValue
import MathProg.Proofs.Expression.Weigh
import MathProg.Proofs.Model.Fitting

/-!
# Operators and values

An operator between two expressions has the value of the operator at their values, whichever kinds
of expressions meet: numbers, variables, affine, quadratic and nonlinear ones. Sums, differences and
products of expressions that are not nonlinear fail only where a product has a degree above two.
-/

namespace MathProg

open Fallible

variable {N K V : Type}

/-! ## What operators mean -/

/-- Whether the heads of the signs mean the operations of the field. Nothing is said of a division
by zero, nor of powers other than the first and the second. -/
structure Meaning.IsArithmetic [Field K] (i : Meaning K) : Prop where
  sum (x y : K) : i.operator "+" [x, y] = some (x + y)
  minus (x y : K) : i.operator "-" [x, y] = some (x - y)
  negative (x : K) : i.operator "-" [x] = some (-x)
  product (x y : K) : i.operator "*" [x, y] = some (x * y)
  quotient (x y : K) (h : y ≠ 0) : i.operator "/" [x, y] = some (x / y)
  first (x : K) : i.operator "^" [x, 1] = some x
  second (x : K) : i.operator "^" [x, 2] = some (x * x)

/-- The operator of the nodes of a sign. -/
def Sign.operator : Sign → Operator
  | add => .sum
  | sub => .minus
  | mul => .product
  | div => .quotient
  | pow => .power

/-- A sign between two numbers. A division by zero and a power are what the interpretation says. -/
def Sign.onValues [Field K] [BEq K] (i : Meaning K) (sign : Sign) (x y : K) : Option K :=
  match sign with
  | add => some (x + y)
  | sub => some (x - y)
  | mul => some (x * y)
  | div => if y == 0 then i.operator "/" [x, y] else some (x / y)
  | pow => i.operator "^" [x, y]

namespace Expression

def isNumber : Expression N K → Bool
  | number _ => true
  | _ => false

def isNonlinear : Expression N K → Bool
  | nonlinear _ _ => true
  | _ => false

/-- Whether there are variables in an expression that is not nonlinear; a quadratic expression
counts even without any. -/
def hasTerms : Expression N K → Bool
  | var _ => true
  | linear a => !a.terms.isEmpty
  | quadratic _ => true
  | _ => false

/-- Whether the product counts as one of a degree above two. -/
def exceedsDegree : Expression N K → Expression N K → Bool
  | quadratic _, f => f.hasTerms
  | e, quadratic _ => e.hasTerms
  | _, _ => false

end Expression

/-! ## Values of sums and products -/

section Total

variable [CommRing K] (a : VariableRef → K)

namespace LinearExpr

variable (e f : LinearExpr K) (c k : K)

@[simp] theorem total_addConstant : (e.addConstant c).total a = e.total a + c := by
  simp only [total, addConstant, ofTerms, Terms.value_addAll, Terms.value_nil]
  ring

@[simp] theorem total_add : (e.add f).total a = e.total a + f.total a := by
  simp only [total, add, Terms.value_addAll, Terms.value_nil]
  ring

@[simp] theorem total_neg : e.neg.total a = -e.total a := by
  simp only [total, neg, ofTerms, Terms.value_addAll, Terms.value_nil, Terms.value_neg]
  ring

@[simp] theorem total_scale : (e.scale k).total a = k * e.total a := by
  simp only [total, scale, ofTerms, Terms.value_addAll, Terms.value_nil, Terms.value_scale]
  ring

/-- The order within a pair does not matter. -/
private theorem weight_of (v x : VariableRef) :
    a (ReferencePair.of v x).first * a (ReferencePair.of v x).second = a v * a x := by
  unfold ReferencePair.of
  split
  · rfl
  · exact mul_comm _ _

/-- The products of all terms, and each constant times the terms of the other factor. -/
@[simp] theorem total_mul : (e.mul f).total a = e.total a * f.total a := by
  have weights : ∀ v, Terms.value
        (fun x => a (ReferencePair.of v x).first * a (ReferencePair.of v x).second) f.terms
      = Terms.value a f.terms * a v := fun v => by
    simp only [weight_of, Terms.value_mul_weight, mul_comm]
  have pairs := value_mulTerms e f (fun p : ReferencePair => a p.first * a p.second)
  simp only [weights, Terms.value_mul_weight] at pairs
  simp only [QuadraticExpr.total, total, mul, pairs, Terms.value_addAll, Terms.value_nil,
    Terms.value_scale]
  ring

end LinearExpr

namespace QuadraticExpr

variable (e f : QuadraticExpr K) (g : LinearExpr K) (c k : K)

@[simp] theorem total_copy : e.copy.total a = e.total a := by
  simp [total, copy, ofPairs]

@[simp] theorem total_ofLinear : (ofLinear g).total a = g.total a := by
  simp [total, ofLinear]

@[simp] theorem total_addLinear : (e.addLinear g).total a = e.total a + g.total a := by
  simp only [total, addLinear, ofPairs, LinearExpr.total_copy, LinearExpr.total_add,
    Terms.value_addAll, Terms.value_nil]
  ring

@[simp] theorem total_addConstant : (e.addConstant c).total a = e.total a + c := by
  simp only [total, addConstant, ofPairs, LinearExpr.total_copy, LinearExpr.total_addConstant,
    Terms.value_addAll, Terms.value_nil]
  ring

@[simp] theorem total_add : (e.add f).total a = e.total a + f.total a := by
  simp only [total, add, LinearExpr.total_copy, LinearExpr.total_add, Terms.value_addAll,
    Terms.value_nil]
  ring

@[simp] theorem total_scale : (e.scale k).total a = k * e.total a := by
  simp only [total, scale, ofPairs, LinearExpr.total_copy, LinearExpr.total_scale,
    Terms.value_addAll, Terms.value_nil, Terms.value_scale]
  ring

@[simp] theorem total_neg : e.neg.total a = -e.total a := by
  rw [neg, total_scale]
  ring

@[simp] theorem total_sub : (e.sub f).total a = e.total a - f.total a := by
  rw [sub, total_add, total_neg, total_copy]
  ring

end QuadraticExpr

end Total

/-! ## Values of operands -/

namespace Expression

section Degree

variable [CommRing K] [Numeral N K] (i : Meaning K)

/-- The value of an operand that is not nonlinear. -/
def Degree.total (a : VariableRef → K) : Degree N K → K
  | .number n => Numeral.value n
  | .linear e => e.total a
  | .quadratic e => e.total a
  | .nonlinear => 0

theorem evaluate_eq_total {e : Expression N K} (h : e.isNonlinear = false) :
    e.evaluate i.valuation = some (e.degree.total i.number) := by
  cases e with
  | number n => rfl
  | var v =>
    rw [degree, Degree.total, LinearExpr.total_ofVariable]
    rfl
  | linear e => exact evaluate_linear i e
  | quadratic e => exact evaluate_quadratic i e
  | nonlinear op args => cases h

omit [CommRing K] [Numeral N K] in
theorem degree_ne_nonlinear [Zero K] [One K] [Add K] {e : Expression N K}
    (h : e.isNonlinear = false) : e.degree ≠ .nonlinear := by
  cases e with
  | nonlinear op args => cases h
  | _ => simp [degree]

theorem evaluate_promoted (e : Expression N K) :
    e.promoted.evaluate i.valuation = e.evaluate i.valuation := by
  cases e with
  | var v =>
    rw [promoted, evaluate_linear, LinearExpr.total_ofVariable]
    rfl
  | _ => rfl

/-- A node has the value of its operator at the values of its arguments. -/
theorem evaluate_node (op : Operator) (e f : Expression N K) :
    (node op e f).evaluate i.valuation = (do
      let x ← e.evaluate i.valuation
      let y ← f.evaluate i.valuation
      i.operator op.head [x, y]) := by
  simp only [node, evaluate, evaluateAll, evaluate_promoted, bind_assoc, pure_bind]
  rfl

/-- Whether a result is an expression that is not nonlinear, with the given value. -/
def Yields (a : VariableRef → K) (result : Except ExpressionError (Expression N K)) (x : K) :
    Prop :=
  ∃ g, result = .ok g ∧ g.isNonlinear = false ∧ g.degree.total a = x

variable {i}

theorem Yields.evaluate {result : Except ExpressionError (Expression N K)} {g : Expression N K}
    {x : K} (h : Yields i.number result x) (found : result = .ok g) :
    g.evaluate i.valuation = some x := by
  obtain ⟨_, same, plain, value⟩ := h
  cases same.symm.trans found
  rw [evaluate_eq_total i plain, value]

theorem yields_linear {a : VariableRef → K} {e : LinearExpr K} {x : K} (h : e.total a = x) :
    Yields a (.ok (.linear e) : Except ExpressionError (Expression N K)) x :=
  ⟨_, rfl, rfl, h⟩

theorem yields_quadratic {a : VariableRef → K} {e : QuadraticExpr K} {x : K} (h : e.total a = x) :
    Yields a (.ok (.quadratic e) : Except ExpressionError (Expression N K)) x :=
  ⟨_, rfl, rfl, h⟩

end Degree

/-! ## The signs -/

section Signs

variable [Field K] [Numeral N K] [ExactNumeral N K]
variable (a : VariableRef → K) {e f g : Expression N K}

theorem coefficient_eq (n : N) : coefficient n = .ok (Numeral.value n : K) := by
  rw [coefficient, Numeral.toCoefficient_eq]
  rfl

/-- A sum of expressions that are not nonlinear. -/
theorem yields_add (he : e.isNonlinear = false) (hf : f.isNonlinear = false) :
    Yields a (e.add f) (e.degree.total a + f.degree.total a) := by
  unfold add
  split
  case h_1 left => exact (degree_ne_nonlinear he left).elim
  case h_2 right _ => exact (degree_ne_nonlinear hf right).elim
  -- Without a quadratic operand the sum is affine.
  case h_3 | h_4 | h_6 | h_7 =>
    simp only [*, coefficient_eq]
    exact yields_linear (by simp [Degree.total, add_comm])
  all_goals
    simp only [*, coefficient_eq]
    exact yields_quadratic (by simp [Degree.total, add_comm])

theorem yields_sub (he : e.isNonlinear = false) (hf : f.isNonlinear = false) :
    Yields a (e.sub f) (e.degree.total a - f.degree.total a) := by
  unfold sub
  split
  case h_1 left => exact (degree_ne_nonlinear he left).elim
  case h_2 right _ => exact (degree_ne_nonlinear hf right).elim
  case h_3 | h_4 | h_6 | h_7 =>
    simp only [*, coefficient_eq]
    exact yields_linear (by simp [Degree.total, LinearExpr.total_sub, neg_add_eq_sub])
  all_goals
    simp only [*, coefficient_eq]
    exact yields_quadratic (by simp [Degree.total, neg_add_eq_sub])

omit [Field K] [ExactNumeral N K] [Numeral N K] in
theorem exceedsDegree_comm (e f : Expression N K) : e.exceedsDegree f = f.exceedsDegree e := by
  cases e <;> cases f <;> rfl

omit [ExactNumeral N K] in
/-- A product of a degree above two is refused. -/
theorem mul_of_exceedsDegree (h : e.exceedsDegree f) : e.mul f = .error .degree := by
  unfold exceedsDegree at h
  split at h
  next =>
    cases f with
    | var v => rfl
    | quadratic b => rfl
    | linear b => simp_all [mul, degree, mulQuadratic, hasTerms]
    | _ => cases h
  next =>
    cases e with
    | var v => rfl
    | quadratic b => rfl
    | linear b => simp_all [mul, degree, mulQuadratic, hasTerms]
    | _ => cases h
  next => cases h

omit [ExactNumeral N K] [Numeral N K] in
/-- Beside a quadratic expression, an affine one of a product that is not refused has no terms. -/
theorem terms_eq_nil {b : LinearExpr K} {c : QuadraticExpr K} (he : e.degree = .linear b)
    (hf : f.degree = .quadratic c) (small : e.exceedsDegree f = false) : b.terms = [] := by
  cases f with
  | quadratic c' =>
    cases e with
    | var v => cases small
    | linear b' =>
      cases he
      simpa [exceedsDegree, hasTerms] using small
    | _ => cases he
  | _ => cases hf

omit [ExactNumeral N K] in
theorem yields_mulQuadratic {b : LinearExpr K} (c : QuadraticExpr K) (none : b.terms = []) :
    Yields a (mulQuadratic b c : Except ExpressionError (Expression N K))
      (b.total a * c.total a) := by
  unfold mulQuadratic
  rw [none, List.isEmpty_nil, if_pos rfl]
  exact yields_quadratic (by simp [LinearExpr.total, none])

theorem yields_mul (he : e.isNonlinear = false) (hf : f.isNonlinear = false)
    (small : e.exceedsDegree f = false) :
    Yields a (e.mul f) (e.degree.total a * f.degree.total a) := by
  unfold mul
  split
  case h_1 left => exact (degree_ne_nonlinear he left).elim
  case h_2 right _ => exact (degree_ne_nonlinear hf right).elim
  case h_3 | h_4 | h_6 =>
    simp only [*, coefficient_eq]
    exact yields_linear (by simp [Degree.total, mul_comm])
  case h_5 | h_7 | h_9 =>
    simp only [*, coefficient_eq]
    exact yields_quadratic (by simp [Degree.total, mul_comm])
  case h_8 b c left right =>
    rw [left, right]
    exact yields_mulQuadratic a c (terms_eq_nil left right small)
  case h_10 b c left right =>
    rw [left, right, mul_comm]
    exact yields_mulQuadratic a b (terms_eq_nil right left (exceedsDegree_comm e f ▸ small))
  case h_11 left right =>
    cases e with
    | quadratic b =>
      cases f with
      | quadratic c => cases small
      | _ => cases right
    | _ => cases left

theorem inverse_eq_ok [BEq K] [LawfulBEq K] {n : N} {c : K} :
    inverse n = .ok c ↔ (Numeral.value n : K) ≠ 0 ∧ 1 / Numeral.value n = c := by
  simp only [inverse, coefficient_eq, bind_eq_ok, Except.ok.injEq, exists_eq_left']
  split
  next zero => simp_all
  next nonzero => simp_all [pure, Except.pure]

end Signs

/-! ## Signs and values -/

section Values

variable [Field K] [BEq K] [LawfulBEq K] [Numeral N K] [ExactNumeral N K]
variable {i : Meaning K} {e f g : Expression N K}

omit [LawfulBEq K] [ExactNumeral N K] in
theorem evaluate_node_sign [LawfulBEq K] (arithmetic : i.IsArithmetic) (sign : Sign) :
    (node sign.operator e f).evaluate i.valuation = (do
      let x ← e.evaluate i.valuation
      let y ← f.evaluate i.valuation
      sign.onValues i x y) := by
  have means (x y : K) : i.operator sign.operator.head [x, y] = sign.onValues i x y := by
    cases sign with
    | add => exact arithmetic.sum x y
    | sub => exact arithmetic.minus x y
    | mul => exact arithmetic.product x y
    | div =>
      by_cases zero : y = 0
      · simp [Sign.onValues, Sign.operator, Operator.head, zero]
      · simp [Sign.onValues, Sign.operator, Operator.head, zero, arithmetic.quotient]
    | pow => rfl
  simp only [evaluate_node, means]

omit [LawfulBEq K] [ExactNumeral N K] in
/-- As soon as one operand is nonlinear, a result is a node. -/
theorem eq_node_of_nonlinear {sign : Sign} (nonlinear : e.isNonlinear ∨ f.isNonlinear)
    (h : e.apply sign f = .ok g) : g = node sign.operator e f := by
  rcases nonlinear with left | right
  · cases e with
    | nonlinear op args => cases sign <;> cases h <;> rfl
    | _ => cases left
  · cases f with
    | nonlinear op args => cases e <;> cases sign <;> cases h <;> rfl
    | _ => cases right

theorem evaluate_div (he : e.isNonlinear = false) (h : e.div f = .ok g) :
    g.evaluate i.valuation
      = Sign.div.onValues i (e.degree.total i.number) (f.degree.total i.number) := by
  unfold div at h
  split at h
  case h_1 left => exact (degree_ne_nonlinear he left).elim
  case h_2 b n left right =>
    obtain ⟨c, hc, h⟩ := bind_eq_ok.1 h
    obtain ⟨nonzero, rfl⟩ := inverse_eq_ok.1 hc
    have scaled := yields_linear (N := N) (LinearExpr.total_scale i.number b (1 / Numeral.value n))
    rw [scaled.evaluate h, left, right]
    simp [Sign.onValues, Degree.total, nonzero, div_eq_inv_mul]
  case h_3 b n left right =>
    obtain ⟨c, hc, h⟩ := bind_eq_ok.1 h
    obtain ⟨nonzero, rfl⟩ := inverse_eq_ok.1 hc
    have scaled := yields_quadratic (N := N)
      (QuadraticExpr.total_scale i.number b (1 / Numeral.value n))
    rw [scaled.evaluate h, left, right]
    simp [Sign.onValues, Degree.total, nonzero, div_eq_inv_mul]
  case h_4 => cases h

omit [LawfulBEq K] in
theorem evaluate_pow (arithmetic : i.IsArithmetic) (he : e.isNonlinear = false)
    (hf : f.isNonlinear = false) (h : e.pow f = .ok g) :
    g.evaluate i.valuation
      = Sign.pow.onValues i (e.degree.total i.number) (f.degree.total i.number) := by
  unfold pow at h
  split at h
  case h_1 left => exact (degree_ne_nonlinear he left).elim
  case h_2 b n left right =>
    rw [left, right]
    simp only [Sign.onValues, Degree.total]
    split at h
    next square =>
      have two : (Numeral.value n : K) = 2 := by simpa using Numeral.value_of_isInt square
      rw [(yields_quadratic (N := N) (LinearExpr.total_mul i.number b b)).evaluate h, two,
        arithmetic.second]
    next =>
      split at h
      next first =>
        have one : (Numeral.value n : K) = 1 := by simpa using Numeral.value_of_isInt first
        rw [(yields_linear (N := N) (LinearExpr.total_copy i.number b)).evaluate h, one,
          arithmetic.first]
      next =>
        cases h
        rw [evaluate_node, evaluate_eq_total i he, evaluate_eq_total i hf, left, right]
        rfl
  case h_3 => cases h

/-- A result of a sign has the value of the sign at the values of the operands. -/
theorem evaluate_apply (arithmetic : i.IsArithmetic) {sign : Sign} (h : e.apply sign f = .ok g) :
    g.evaluate i.valuation = (do
      let x ← e.evaluate i.valuation
      let y ← f.evaluate i.valuation
      sign.onValues i x y) := by
  -- nodes take their values from the interpretation, all other results from their terms
  by_cases nonlinear : e.isNonlinear ∨ f.isNonlinear
  · rw [eq_node_of_nonlinear nonlinear h, evaluate_node_sign arithmetic]
  · obtain ⟨he, hf⟩ : e.isNonlinear = false ∧ f.isNonlinear = false := by simpa using nonlinear
    rw [evaluate_eq_total i he, evaluate_eq_total i hf]
    change _ = sign.onValues i _ _
    cases sign with
    | add => exact (yields_add i.number he hf).evaluate h
    | sub => exact (yields_sub i.number he hf).evaluate h
    | mul =>
      have small : e.exceedsDegree f = false := by
        by_contra large
        cases (mul_of_exceedsDegree (by simpa using large)).symm.trans h
      exact (yields_mul i.number he hf small).evaluate h
    | div => exact evaluate_div he h
    | pow => exact evaluate_pow arithmetic he hf h

omit [LawfulBEq K] in
/-- A sum, a difference or a product of a degree up to two is never refused. -/
theorem exists_apply {sign : Sign} (among : sign ∈ [Sign.add, .sub, .mul])
    (he : e.isNonlinear = false) (hf : f.isNonlinear = false)
    (small : ¬(sign = .mul ∧ e.exceedsDegree f)) : ∃ g, e.apply sign f = .ok g := by
  have anywhere : VariableRef → K := fun _ => 0
  cases sign with
  | add =>
    obtain ⟨g, result, -⟩ := yields_add anywhere he hf
    exact ⟨g, result⟩
  | sub =>
    obtain ⟨g, result, -⟩ := yields_sub anywhere he hf
    exact ⟨g, result⟩
  | mul =>
    obtain ⟨g, result, -⟩ := yields_mul anywhere he hf (by simpa using small)
    exact ⟨g, result⟩
  | div => simp at among
  | pow => simp at among

omit [BEq K] [LawfulBEq K] in
theorem evaluate_neg (arithmetic : i.IsArithmetic) (e : Expression N K) :
    e.neg.evaluate i.valuation = (do let x ← e.evaluate i.valuation; return -x) := by
  cases e with
  | number n =>
    have negated := Numeral.value_of_toCoefficient
      (ExactNumeral.toCoefficient_neg n _ (Numeral.toCoefficient_eq (K := K) n))
    exact congrArg some negated
  | var v =>
    rw [neg, evaluate_linear, LinearExpr.total_neg, LinearExpr.total_ofVariable]
    rfl
  | linear b =>
    rw [neg, evaluate_linear, evaluate_linear, LinearExpr.total_neg]
    rfl
  | quadratic b =>
    rw [neg, evaluate_quadratic, evaluate_quadratic, QuadraticExpr.total_neg]
    rfl
  | nonlinear op args =>
    simp only [neg, evaluate, evaluateAll, bind_assoc, pure_bind]
    exact bind_congr fun xs => bind_congr fun x => arithmetic.negative x

end Values

end Expression

/-! ## Signs between operands -/

namespace Operand

/-- Between expressions that are not both numbers, an operator is that of the expressions. -/
theorem apply_expression [Zero K] [One K] [Add K] [Mul K] [Neg K] [Div K] [BEq K] [Numeral N K]
    [CheckedArithmetic N K V] (sign : Sign) {e f : Expression N K}
    (notBoth : ¬(e.isNumber ∧ f.isNumber)) :
    apply (V := V) sign (expression e) (expression f) = expression <$> e.apply sign f := by
  have quantities : (expression e).quantity? (V := V) = Option.none ∨
      (expression f).quantity? (V := V) = Option.none := by
    cases e with
    | number m =>
      cases f with
      | number n => exact (notBoth ⟨rfl, rfl⟩).elim
      | _ => exact .inr rfl
    | _ => exact .inl rfl
  change applyPlain (V := V) sign (expression e) (expression f) = _
  unfold applyPlain
  split
  next left right =>
    rw [left, right] at quantities
    simp at quantities
  next => exact (map_eq_pure_bind expression (e.apply sign f)).symm

variable [Field K] [BEq K] [LawfulBEq K] [Numeral N K] [ExactNumeral N K]
variable [CheckedArithmetic N K V]

/-- Operators have the values of the operators: for all kinds of expressions, whatever a sign gives
has the value of the sign at the values of its operands, and so has a negative. Between expressions
that are not nonlinear, sums, differences and products are refused as operands of a wrong type
exactly if a product is of a degree above two, and have a result otherwise. -/
theorem apply_value {i : Meaning K} (arithmetic : i.IsArithmetic) {e f : Expression N K}
    (notBoth : ¬(e.isNumber ∧ f.isNumber)) :
    (∀ sign r, apply (V := V) sign (expression e) (expression f) = .ok r →
      ∃ g, r = expression g ∧ g.evaluate i.valuation = (do
        let x ← e.evaluate i.valuation
        let y ← f.evaluate i.valuation
        sign.onValues i x y)) ∧
    (∃ g, (expression e).neg = .ok (expression g) ∧
      g.evaluate i.valuation = (do let x ← e.evaluate i.valuation; return -x)) ∧
    (e.isNonlinear = false → f.isNonlinear = false → ∀ sign ∈ [Sign.add, .sub, .mul],
      ((∃ error, apply (V := V) sign (expression e) (expression f) = .error error ∧
        ∀ labels, (Reported.report labels error).kind = .wrongType) ↔
          sign = .mul ∧ e.exceedsDegree f) ∧
      ((∃ g, apply (V := V) sign (expression e) (expression f) = .ok (expression g)) ↔
        ¬(sign = .mul ∧ e.exceedsDegree f))) := by
  refine ⟨fun sign r h => ?_, ⟨_, rfl, Expression.evaluate_neg arithmetic e⟩, ?_⟩
  · rw [apply_expression sign notBoth] at h
    obtain ⟨g, result, rfl⟩ := map_eq_ok.1 h
    exact ⟨g, rfl, Expression.evaluate_apply arithmetic result⟩
  · intro he hf sign among
    rw [apply_expression sign notBoth]
    by_cases large : sign = .mul ∧ e.exceedsDegree f
    · obtain ⟨rfl, exceeds⟩ := large
      have refused : Expression.apply .mul e f = .error .degree :=
        Expression.mul_of_exceedsDegree exceeds
      rw [refused]
      refine ⟨iff_of_true ⟨_, rfl, fun _ => rfl⟩ ⟨rfl, exceeds⟩, ?_⟩
      exact iff_of_false (fun ⟨_, result⟩ => nomatch result) fun free => free ⟨rfl, exceeds⟩
    · obtain ⟨g, result⟩ := Expression.exists_apply among he hf large
      rw [result]
      exact ⟨iff_of_false (fun ⟨_, error, _⟩ => nomatch error) large,
        iff_of_true ⟨g, rfl⟩ large⟩

/-! ### A product and a power -/

/-- The variables stand for their indices, and the heads of the signs for their operations; a power
must have a natural exponent. -/
def indexMeaning : Meaning ℚ where
  number v := v.index
  operator
    | "+", [x, y] => some (x + y)
    | "-", [x, y] => some (x - y)
    | "-", [x] => some (-x)
    | "*", [x, y] => some (x * y)
    | "/", [x, y] => if y = 0 then Option.none else some (x / y)
    | "^", [x, y] => if y.den = 1 ∧ 0 ≤ y.num then some (x ^ y.num.toNat) else Option.none
    | _, _ => Option.none

theorem indexMeaning_isArithmetic : indexMeaning.IsArithmetic where
  sum _ _ := rfl
  minus _ _ := rfl
  negative _ := rfl
  product _ _ := rfl
  quotient x y h := if_neg h
  first x := by simp [indexMeaning]
  second x := by simp [indexMeaning, sq]

/-- The product of `3 x + 1` and `y` is 8 where `x` is 1 and `y` is 2, and the product of `x y` and
`y` is refused. -/
theorem apply_value_product :
    let x : LinearExpr ℚ := .ofVariable ⟨0, 1⟩
    let y : Expression ℚ ℚ := .var ⟨0, 2⟩
    let e : Expression ℚ ℚ := .linear ⟨[(⟨0, 1⟩, 3)], 1⟩
    let q : Expression ℚ ℚ := .quadratic (x.mul (.ofVariable ⟨0, 2⟩))
    (∃ g, apply (V := ℚ) .mul (expression e) (expression y) = .ok (expression g) ∧
      g.evaluate indexMeaning.valuation = some 8) ∧
    ∃ error, apply (V := ℚ) .mul (expression q) (expression y) = .error error ∧
      ∀ labels, (Reported.report labels error).kind = .wrongType := by
  intro x y e q
  obtain ⟨values, -, results⟩ := apply_value (V := ℚ) (e := e) (f := y) indexMeaning_isArithmetic
    (by simp [e, y, Expression.isNumber])
  have small : ¬(Sign.mul = .mul ∧ e.exceedsDegree y) := by simp [e, y, Expression.exceedsDegree]
  obtain ⟨g, result⟩ := (results rfl rfl .mul (by simp)).2.2 small
  obtain ⟨_, same, value⟩ := values .mul _ result
  cases same
  refine ⟨⟨g, result, value.trans ?_⟩, ?_⟩
  · rw [Expression.evaluate_linear]
    norm_num [LinearExpr.total, Terms.value, Sign.onValues, indexMeaning, y, Expression.evaluate,
      Meaning.valuation]
  · obtain ⟨-, -, refusals⟩ := apply_value (V := ℚ) (e := q) (f := y) indexMeaning_isArithmetic
      (by simp [q, Expression.isNumber])
    exact (refusals rfl rfl .mul (by simp)).1.2 ⟨rfl, rfl⟩

end Operand

end MathProg
