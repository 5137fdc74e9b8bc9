import MathProg.Proofs.Expression.Over
import MathProg.Proofs.Fallible
import MathProg.Proofs.Number.Exact

/-!
# Degrees of sums and products

A sum, a difference or a product of affine and quadratic expressions has the degree and the values
that it should have. Terms never vanish, so an affine expression that was built from variables always
has one, and a product of degree above two is always refused.
-/

namespace MathProg

open Formula (Monomial)
open Formula.Polynomial (times)

variable {N K : Type} [CommRing K] [Numeral N K]

namespace Expression

/-- What an operand amounts to: its degree, its values at weights of monomials, and a property of
all its variables. -/
inductive Degree.Measured (P : VariableRef → Prop) :
    Degree N K → Nat → ((Monomial → K) → K) → Prop
  | number {n : N} {c : K} {values : (Monomial → K) → K} (given : Numeral.toCoefficient n = .ok c)
      (same : ∀ w, values w = c * w .one) : Measured P (.number n) 0 values
  | linear {e : LinearExpr K} {values : (Monomial → K) → K} (some : e.terms ≠ [])
      (known : e.Over P) (same : ∀ w, values w = e.weigh w) : Measured P (.linear e) 1 values
  | quadratic {e : QuadraticExpr K} {values : (Monomial → K) → K} (known : e.Over P)
      (same : ∀ w, values w = e.weigh w) : Measured P (.quadratic e) 2 values

/-- What an expression amounts to. -/
def Measured (P : VariableRef → Prop) (e : Expression N K) (d : Nat)
    (values : (Monomial → K) → K) : Prop :=
  e.degree.Measured P d values

/-- Whether the expression is a variable alone. -/
def isVar : Expression N K → Bool
  | .var _ => true
  | _ => false

/-- What a sign between two operands gives. Two numbers are numbers again. -/
def combine (onNumbers : K → K → K)
    (sign : Expression N K → Expression N K → Except ExpressionError (Expression N K))
    (e f : Expression N K) : Except ExpressionError (Expression N K) :=
  match e, f with
  | .number m, .number n => do
    return .number (Numeral.ofCoefficient (onNumbers (← coefficient m) (← coefficient n)))
  | e, f => sign e f

variable {P : VariableRef → Prop} {e f : Expression N K} {d d' : Nat}
variable {values values' : (Monomial → K) → K}

omit [CommRing K] in
theorem coefficient_ok {n : N} {c : K} (h : Numeral.toCoefficient n = .ok c) :
    coefficient n = .ok c := by
  rw [coefficient, h]
  rfl

theorem measured_var {v : VariableRef} (h : P v) :
    (var v : Expression N K).Measured P 1 (fun w => w (.linear v.index)) :=
  .linear (by simp [LinearExpr.ofVariable]) (LinearExpr.over_ofVariable h) (by simp)

private theorem addAll_ne_nil {κ : Type} [BEq κ] [LawfulBEq κ] {terms more : List (κ × K)}
    (h : terms ≠ [] ∨ more ≠ []) : Terms.addAll terms more ≠ [] := by
  intro empty
  rcases h with h | h <;> obtain ⟨t, ht⟩ := List.exists_mem_of_ne_nil _ h
  · have found : t.1 ∈ (Terms.addAll terms more).map Prod.fst :=
      Terms.mem_keys_addAll.2 (.inl (List.mem_map_of_mem ht))
    simp [empty] at found
  · have found : t.1 ∈ (Terms.addAll terms more).map Prod.fst :=
      Terms.mem_keys_addAll.2 (.inr (List.mem_map_of_mem ht))
    simp [empty] at found

omit [CommRing K] in
private theorem mapCoefficients_ne_nil {κ : Type} {terms : List (κ × K)} {g : K → K}
    (h : terms ≠ []) : Terms.mapCoefficients g terms ≠ [] := by
  simpa [Terms.mapCoefficients] using h

omit [CommRing K] [Numeral N K] in
private theorem eq_number [Zero K] [One K] [Add K] {n : N} (h : e.degree = .number n) :
    e = .number n := by
  cases e <;> cases h
  rfl

variable [ExactNumeral N K]

/-- Two numbers make a number; any other two operands are left to the operator. -/
theorem Measured.combine {onNumbers : K → K → K}
    {sign : Expression N K → Expression N K → Except ExpressionError (Expression N K)}
    {result : (Monomial → K) → K} {degree : Nat} (he : e.Measured P d values)
    (hf : f.Measured P d' values') (zero : d = 0 → d' = 0 → degree = 0)
    (numbers : ∀ c c', (∀ w, values w = c * w .one) → (∀ w, values' w = c' * w .one) →
      ∀ w, result w = onNumbers c c' * w .one)
    (others : 0 < d + d' →
      ∃ r, sign e f = .ok r ∧ r.isVar = false ∧ r.Measured P degree result) :
    ∃ r, combine onNumbers sign e f = .ok r ∧ r.isVar = false ∧ r.Measured P degree result := by
  by_cases both : ∃ m n, e = .number m ∧ f = .number n
  · obtain ⟨m, n, rfl, rfl⟩ := both
    cases he with
    | number given same =>
      cases hf with
      | number given' same' =>
        rw [zero rfl rfl, Expression.combine, coefficient_ok given, coefficient_ok given']
        exact ⟨_, rfl, rfl, .number (ExactNumeral.toCoefficient_ofCoefficient _)
          (numbers _ _ same same')⟩
  · have some : 0 < d + d' := by
      refine Nat.pos_of_ne_zero fun none => both ?_
      unfold Measured at he hf
      generalize hD : e.degree = D at he
      generalize hE : f.degree = E at hf
      cases he <;> cases hf <;> simp at none
      exact ⟨_, _, eq_number hD, eq_number hE⟩
    have apart : Expression.combine onNumbers sign e f = sign e f := by
      unfold Expression.combine
      split
      next m n => exact absurd ⟨m, n, rfl, rfl⟩ both
      next => rfl
    rw [apart]
    exact others some

/-! ## Sums -/

theorem Measured.add (he : e.Measured P d values) (hf : f.Measured P d' values') :
    ∃ r, Expression.combine (· + ·) Expression.add e f = .ok r ∧ r.isVar = false ∧
      r.Measured P (max d d') (fun w => values w + values' w) := by
  refine he.combine hf (by omega) (fun c c' h h' w => by rw [h, h']; ring) fun positive => ?_
  unfold Measured at he hf
  -- the operator only looks at degrees, so these are taken apart and not the expressions
  generalize hD : e.degree = D at he
  generalize hE : f.degree = E at hf
  unfold Expression.add
  rw [hD, hE]
  cases he with
  | number given same =>
    cases hf with
    | number given' same' => cases positive
    | linear some known same' =>
      simp only [coefficient_ok given]
      exact ⟨_, rfl, rfl, .linear (addAll_ne_nil (.inr some)) (known.addConstant _)
        fun w => by rw [same, same', LinearExpr.weigh_addConstant]; ring⟩
    | quadratic known same' =>
      simp only [coefficient_ok given]
      exact ⟨_, rfl, rfl, .quadratic (known.addConstant _)
        fun w => by rw [same, same', QuadraticExpr.weigh_addConstant]; ring⟩
  | linear some known same =>
    cases hf with
    | number given' same' =>
      simp only [coefficient_ok given']
      exact ⟨_, rfl, rfl, .linear (addAll_ne_nil (.inr some)) (known.addConstant _)
        fun w => by rw [same, same', LinearExpr.weigh_addConstant]⟩
    | linear some' known' same' =>
      exact ⟨_, rfl, rfl, .linear (addAll_ne_nil (.inr some')) (known.add known')
        fun w => by rw [same, same', LinearExpr.weigh_add]⟩
    | quadratic known' same' =>
      exact ⟨_, rfl, rfl, .quadratic (known'.addLinear known)
        fun w => by rw [same, same', QuadraticExpr.weigh_addLinear]; ring⟩
  | quadratic known same =>
    cases hf with
    | number given' same' =>
      simp only [coefficient_ok given']
      exact ⟨_, rfl, rfl, .quadratic (known.addConstant _)
        fun w => by rw [same, same', QuadraticExpr.weigh_addConstant]⟩
    | linear some' known' same' =>
      exact ⟨_, rfl, rfl, .quadratic (known.addLinear known')
        fun w => by rw [same, same', QuadraticExpr.weigh_addLinear]⟩
    | quadratic known' same' =>
      exact ⟨_, rfl, rfl, .quadratic (known.add known')
        fun w => by rw [same, same', QuadraticExpr.weigh_add]⟩

/-! ## Negatives and differences -/

theorem Measured.neg (he : e.Measured P d values) :
    (e.neg).isVar = false ∧ e.neg.Measured P d (fun w => -values w) := by
  have linear {a : LinearExpr K} (some : a.terms ≠ []) (known : a.Over P)
      (same : ∀ w, values w = a.weigh w) :
      (Expression.linear a.neg : Expression N K).Measured P 1 (fun w => -values w) :=
    .linear (addAll_ne_nil (.inr (mapCoefficients_ne_nil some))) known.neg
      fun w => by rw [same, LinearExpr.weigh_neg]
  cases e with
  | number n =>
    cases he with
    | number given same =>
      refine ⟨rfl, .number (ExactNumeral.toCoefficient_neg _ _ given) fun w => ?_⟩
      rw [same]
      ring
  | var v => cases he with | linear some known same => exact ⟨rfl, linear some known same⟩
  | linear a => cases he with | linear some known same => exact ⟨rfl, linear some known same⟩
  | quadratic a =>
    cases he with
    | quadratic known same =>
      exact ⟨rfl, .quadratic known.neg fun w => by rw [same, QuadraticExpr.weigh_neg]⟩
  | nonlinear op args => cases he

theorem Measured.sub (he : e.Measured P d values) (hf : f.Measured P d' values') :
    ∃ r, Expression.combine (· - ·) Expression.sub e f = .ok r ∧ r.isVar = false ∧
      r.Measured P (max d d') (fun w => values w - values' w) := by
  refine he.combine hf (by omega) (fun c c' h h' w => by rw [h, h']; ring) fun positive => ?_
  -- past two numbers, the degrees of the operands choose the branch
  unfold Measured at he hf
  generalize hD : e.degree = D at he
  generalize hE : f.degree = E at hf
  unfold Expression.sub
  rw [hD, hE]
  cases he with
  | number given same =>
    cases hf with
    | number given' same' => cases positive
    | linear some known same' =>
      simp only [coefficient_ok given]
      exact ⟨_, rfl, rfl, .linear (addAll_ne_nil (.inr (addAll_ne_nil (.inr
        (mapCoefficients_ne_nil some))))) (known.neg.addConstant _) fun w => by
          rw [same, same', LinearExpr.weigh_addConstant, LinearExpr.weigh_neg]; ring⟩
    | quadratic known same' =>
      simp only [coefficient_ok given]
      exact ⟨_, rfl, rfl, .quadratic (known.neg.addConstant _) fun w => by
        rw [same, same', QuadraticExpr.weigh_addConstant, QuadraticExpr.weigh_neg]; ring⟩
  | linear some known same =>
    cases hf with
    | number given' same' =>
      simp only [coefficient_ok given']
      exact ⟨_, rfl, rfl, .linear (addAll_ne_nil (.inl (addAll_ne_nil (.inr some))))
        (known.sub (LinearExpr.over_ofConstant _))
        fun w => by rw [same, same', LinearExpr.weigh_sub, LinearExpr.weigh_ofConstant]⟩
    | linear some' known' same' =>
      exact ⟨_, rfl, rfl, .linear (addAll_ne_nil (.inl (addAll_ne_nil (.inr some))))
        (known.sub known') fun w => by rw [same, same', LinearExpr.weigh_sub]⟩
    | quadratic known' same' =>
      exact ⟨_, rfl, rfl, .quadratic (known'.neg.addLinear known) fun w => by
        rw [same, same', QuadraticExpr.weigh_addLinear, QuadraticExpr.weigh_neg]; ring⟩
  | quadratic known same =>
    cases hf with
    | number given' same' =>
      simp only [coefficient_ok given']
      exact ⟨_, rfl, rfl,
        .quadratic (known.sub (QuadraticExpr.over_ofLinear (LinearExpr.over_ofConstant _)))
          fun w => by rw [same, same', QuadraticExpr.weigh_sub, QuadraticExpr.weigh_ofLinear,
            LinearExpr.weigh_ofConstant]⟩
    | linear some' known' same' =>
      exact ⟨_, rfl, rfl, .quadratic (known.sub (QuadraticExpr.over_ofLinear known'))
        fun w => by rw [same, same', QuadraticExpr.weigh_sub, QuadraticExpr.weigh_ofLinear]⟩
    | quadratic known' same' =>
      exact ⟨_, rfl, rfl, .quadratic (known.sub known')
        fun w => by rw [same, same', QuadraticExpr.weigh_sub]⟩

/-! ## Products -/

omit [Numeral N K] [ExactNumeral N K] in
private theorem times_one (w : Monomial → K) (m : Monomial) : times w m .one = w m := by
  cases m <;> rfl

omit [Numeral N K] [ExactNumeral N K] in
private theorem weigh_times_number {c : K} {w : Monomial → K} (e : LinearExpr K)
    (h : ∀ w, values' w = c * w .one) :
    e.weigh (fun m => values' (times w m)) = c * e.weigh w := by
  simp only [h, times_one]
  rw [LinearExpr.weigh, LinearExpr.weigh, Terms.value_mul_weight]
  ring

omit [Numeral N K] [ExactNumeral N K] in
private theorem quadratic_weigh_times_number {c : K} {w : Monomial → K} (e : QuadraticExpr K)
    (h : ∀ w, values' w = c * w .one) :
    e.weigh (fun m => values' (times w m)) = c * e.weigh w := by
  rw [QuadraticExpr.weigh, weigh_times_number e.linear h, QuadraticExpr.weigh]
  simp only [h, times_one]
  rw [Terms.value_mul_weight]
  ring

theorem Measured.mul (he : e.Measured P d values) (hf : f.Measured P d' values')
    (small : d + d' ≤ 2) :
    ∃ r, Expression.combine (· * ·) Expression.mul e f = .ok r ∧ r.isVar = false ∧
      r.Measured P (d + d') (fun w => values (fun m => values' (times w m))) := by
  refine he.combine hf (by omega) (fun c c' h h' w => ?_) fun positive => ?_
  · rw [h, h', times_one]
    ring
  -- the degrees choose the branch, and `small` excludes those that would leave the measure
  unfold Measured at he hf
  generalize hD : e.degree = D at he
  generalize hE : f.degree = E at hf
  unfold Expression.mul
  rw [hD, hE]
  cases he with
  | number given same =>
    cases hf with
    | number given' same' => cases positive
    | linear some known same' =>
      simp only [coefficient_ok given]
      exact ⟨_, rfl, rfl, .linear (addAll_ne_nil (.inr (mapCoefficients_ne_nil some)))
        (known.scale _) fun w => by rw [same, same', LinearExpr.weigh_scale]; rfl⟩
    | quadratic known same' =>
      simp only [coefficient_ok given]
      exact ⟨_, rfl, rfl, .quadratic (known.scale _)
        fun w => by rw [same, same', QuadraticExpr.weigh_scale]; rfl⟩
  | linear some known same =>
    cases hf with
    | number given' same' =>
      simp only [coefficient_ok given']
      exact ⟨_, rfl, rfl, .linear (addAll_ne_nil (.inr (mapCoefficients_ne_nil some)))
        (known.scale _) fun w => by rw [same, weigh_times_number _ same', LinearExpr.weigh_scale]⟩
    | linear some' known' same' =>
      refine ⟨_, rfl, rfl, .quadratic (known.mul known') fun w => ?_⟩
      rw [same, LinearExpr.weigh_mul]
      simp only [same']
    | quadratic known' same' => omega
  | quadratic known same =>
    cases hf with
    | number given' same' =>
      simp only [coefficient_ok given']
      exact ⟨_, rfl, rfl, .quadratic (known.scale _) fun w => by
        rw [same, quadratic_weigh_times_number _ same', QuadraticExpr.weigh_scale]⟩
    | linear some' known' same' => omega
    | quadratic known' same' => omega

omit [ExactNumeral N K] in
/-- A product of degree above two is refused, since an affine factor has a term. -/
theorem Measured.mul_large (he : e.Measured P d values) (hf : f.Measured P d' values')
    (large : 2 < d + d') :
    Expression.combine (· * ·) Expression.mul e f = .error .degree := by
  have refused {a : LinearExpr K} (b : QuadraticExpr K) (some : a.terms ≠ []) :
      (mulQuadratic a b : Except ExpressionError (Expression N K)) = .error .degree := by
    simp [mulQuadratic, some]
  have apart (h : ∀ n, e ≠ .number n) : Expression.combine (· * ·) Expression.mul e f = e.mul f := by
    unfold Expression.combine
    split
    next m n => exact absurd rfl (h m)
    next => rfl
  unfold Measured at he hf
  generalize hD : e.degree = D at he
  generalize hE : f.degree = E at hf
  rw [apart (by rintro n rfl; cases hD; cases he; cases hf <;> omega), Expression.mul, hD, hE]
  cases he with
  | number given same => cases hf <;> omega
  | linear some known same =>
    cases hf with
    | quadratic known' same' => exact refused _ some
    | _ => omega
  | quadratic known same =>
    cases hf with
    | number given' same' => omega
    | linear some' known' same' => exact refused _ some'
    | quadratic known' same' => rfl

end Expression

end MathProg
