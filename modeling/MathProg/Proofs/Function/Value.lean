import MathProg.Expression.Evaluation
import MathProg.Function.Evaluation
import MathProg.Proofs.Expression.Over
import MathProg.Proofs.Model.Represent
import MathProg.Proofs.Number.Exact

/-!
# Values at an assignment

The variables of a model are given numbers, and the operators any meaning at all. Then an expression
and its function have the same value, whichever way the terms have been merged and sorted.
-/

namespace MathProg

variable {N K : Type}

/-- The numbers that variables stand for, and what the heads of operators mean. An operator may have
no value. -/
structure Meaning (K : Type) where
  number : VariableRef → K
  operator : String → List K → Option K

namespace Meaning

/-- How expressions are read. -/
def valuation [Ring K] [Numeral N K] (i : Meaning K) : Valuation Option N K where
  reference v := some (i.number v)
  number n := some (Numeral.value n)
  operator op xs := i.operator op.head xs

/-- The number that a position in a model stands for. -/
def place (i : Meaning K) (model : Nat) (position : Int) : K :=
  i.number ⟨model, position.toNat⟩

/-- How functions are read, the positions being those of the variables of one model. -/
def interpretation (i : Meaning K) (model : Nat) : Interpretation Option K where
  value position := some (i.place model position)
  operator head xs := do i.operator head (← xs.mapM Shaped.only?)

end Meaning

variable [CommRing K]

omit [CommRing K] in
theorem Shaped.mapM_only? (xs : List K) : (xs.map scalar).mapM only? = some xs := by
  induction xs with
  | nil => rfl
  | cons x xs ih => simp [List.mapM_cons, ih, only?]

/-! ## Sums -/

/-- The value of an affine expression. -/
def LinearExpr.total (a : VariableRef → K) (e : LinearExpr K) : K :=
  e.constant + Terms.value a e.terms

/-- The value of a quadratic expression. -/
def QuadraticExpr.total (a : VariableRef → K) (e : QuadraticExpr K) : K :=
  e.linear.total a + Terms.value (fun p => a p.first * a p.second) e.pairs

theorem LinearExpr.evaluate_eq (a : VariableRef → K) (e : LinearExpr K) :
    e.evaluate (fun v => some (a v)) = some (e.total a) := by
  unfold evaluate total
  generalize e.constant = start
  induction e.terms generalizing start with
  | nil => simp
  | cons t terms ih =>
    rw [List.foldlM_cons, Terms.value_cons, ← add_assoc]
    exact ih _

private theorem foldlM_pairs {κ : Type} (x y : κ → K) (terms : List (κ × K)) (start : K) :
    terms.foldlM (fun total t => some (total + t.2 * x t.1 * y t.1)) start
      = some (start + Terms.value (fun k => x k * y k) terms) := by
  induction terms generalizing start with
  | nil => simp
  | cons t terms ih =>
    rw [List.foldlM_cons, Terms.value_cons, ← add_assoc, ← mul_assoc]
    exact ih _

theorem QuadraticExpr.evaluate_eq (a : VariableRef → K) (e : QuadraticExpr K) :
    e.evaluate (fun v => some (a v)) = some (e.total a) := by
  unfold evaluate total
  rw [LinearExpr.evaluate_eq]
  exact foldlM_pairs (fun p => a p.first) (fun p => a p.second) e.pairs _

theorem Affine.evaluate_eq (x : Int → K) (f : Affine K) :
    f.evaluate (fun v => some (x v)) = some (f.constant + Terms.value x f.terms) := by
  have sum (terms : List (Int × K)) (start : K) :
      terms.foldlM (fun sum t => some (sum + t.2 * x t.1)) start
        = some (start + Terms.value x terms) := by
    induction terms generalizing start with
    | nil => simp
    | cons t terms ih =>
      rw [List.foldlM_cons, Terms.value_cons, ← add_assoc]
      exact ih _
  have terms := sum f.terms 0
  rw [zero_add] at terms
  unfold evaluate
  exact congrArg (fun s : Option K => s.bind (fun s => some (f.constant + s))) terms

theorem Quadratic.evaluate_eq (x : Int → K) (f : Quadratic K) :
    f.evaluate (fun v => some (x v)) = some (f.constant + Terms.value x f.terms
      + Terms.value (fun p => x p.first * x p.second) f.pairs) := by
  have pairs := foldlM_pairs (fun p : VariablePair => x p.first) (fun p => x p.second) f.pairs 0
  rw [zero_add] at pairs
  unfold evaluate
  rw [Affine.evaluate_eq]
  exact congrArg (fun s : Option K => s.bind (fun s =>
    some (f.constant + Terms.value x f.terms + s))) pairs

/-! ## Functions at given numbers -/

/-- Variables have the given numbers, and operators no values. -/
def Interpretation.point {K : Type} (x : Int → K) : Interpretation Option K :=
  ⟨fun v => some (x v), fun _ _ => none⟩

section At

variable [BEq K] {j : Interpretation Option K} {x : Int → K}

omit [BEq K] in
theorem Function.evaluate_affine_at (h : j.value = fun v => some (x v)) (f : Affine K) :
    (affine f).evaluate j = some (.scalar (f.constant + Terms.value x f.terms)) := by
  rw [Function.evaluate, h, Affine.evaluate_eq]
  rfl

omit [BEq K] in
theorem Function.evaluate_quadratic_at (h : j.value = fun v => some (x v)) (f : Quadratic K) :
    (quadratic f).evaluate j = some (.scalar (f.constant + Terms.value x f.terms
      + Terms.value (fun p => x p.first * x p.second) f.pairs)) := by
  rw [Function.evaluate, h, Quadratic.evaluate_eq]
  rfl

/-- A function that has turned affine has the value of the quadratic one. -/
theorem Function.evaluate_canonicalQuadratic_at [LawfulBEq K] (h : j.value = fun v => some (x v))
    (pairs : List (VariablePair × K)) (terms : List (Int × K)) (c : K) :
    (canonicalQuadratic pairs terms c).evaluate j = some (.scalar (c + Terms.value x terms
      + Terms.value (fun p => x p.first * x p.second) pairs)) := by
  unfold canonicalQuadratic
  simp only
  split
  next none =>
    have zero := Terms.value_canonical
      (w := fun p : VariablePair => x p.first * x p.second) pairs
    rw [List.isEmpty_iff.1 none, Terms.value_nil] at zero
    rw [evaluate_affine_at h, Terms.value_canonical, ← zero, add_zero]
  next => rw [evaluate_quadratic_at h, Terms.value_canonical, Terms.value_canonical]

end At

/-! ## Functions of expressions -/

variable [BEq K] (i : Meaning K) (model : Nat)

omit [BEq K] in
theorem Function.evaluate_affine (f : Affine K) :
    (affine f).evaluate (i.interpretation model)
      = some (.scalar (f.constant + Terms.value (i.place model) f.terms)) :=
  evaluate_affine_at rfl f

omit [BEq K] in
theorem Function.evaluate_quadratic (f : Quadratic K) :
    (quadratic f).evaluate (i.interpretation model)
      = some (.scalar (f.constant + Terms.value (i.place model) f.terms
        + Terms.value (fun p => i.place model p.first * i.place model p.second) f.pairs)) :=
  evaluate_quadratic_at rfl f

theorem Function.evaluate_canonicalQuadratic [LawfulBEq K] (pairs : List (VariablePair × K))
    (terms : List (Int × K)) (c : K) :
    (canonicalQuadratic pairs terms c).evaluate (i.interpretation model)
      = some (.scalar (c + Terms.value (i.place model) terms
        + Terms.value (fun p => i.place model p.first * i.place model p.second) pairs)) :=
  evaluate_canonicalQuadratic_at rfl pairs terms c

variable {model}

theorem LinearExpr.evaluate_toAffine [LawfulBEq K] {e : LinearExpr K} (owned : e.Over (·.model = model)) :
    e.toAffine.evaluate (i.interpretation model).value = some (e.total i.number) := by
  refine (Affine.evaluate_eq (i.place model) _).trans (congrArg some ?_)
  unfold toAffine Affine.canonical total
  rw [Terms.value_canonical, Terms.value_map_key (fun v : VariableRef => (v.index : Int))]
  refine congrArg (e.constant + ·) (Terms.value_congr fun t ht => ?_)
  obtain rfl := owned t.1 (List.mem_map_of_mem ht)
  rfl

theorem QuadraticExpr.evaluate_toFunction [LawfulBEq K] {e : QuadraticExpr K} (owned : e.Over (·.model = model)) :
    e.toFunction.evaluate (i.interpretation model) = some (.scalar (e.total i.number)) := by
  have place_variable {v : VariableRef} (h : v.model = model) : i.place model v.index = i.number v := by
    rw [← h]
    rfl
  have place_pair {p : ReferencePair} (h : p.first.model = model ∧ p.second.model = model) :
      i.place model p.indices.first * i.place model p.indices.second
        = i.number p.first * i.number p.second := by
    rw [← place_variable h.1, ← place_variable h.2]
    unfold ReferencePair.indices VariablePair.of
    split
    · rfl
    · exact mul_comm _ _
  have terms : Terms.value (i.place model) (e.linear.terms.map (fun t => ((t.1.index : Int), t.2)))
      = Terms.value i.number e.linear.terms := by
    rw [Terms.value_map_key (fun v : VariableRef => (v.index : Int))]
    exact Terms.value_congr fun t ht => place_variable (owned.linear _ (List.mem_map_of_mem ht))
  have pairs : Terms.value (fun p : VariablePair => i.place model p.first * i.place model p.second)
        (e.pairs.map (fun t => (t.1.indices, t.2)))
      = Terms.value (fun p => i.number p.first * i.number p.second) e.pairs := by
    rw [Terms.value_map_key ReferencePair.indices]
    exact Terms.value_congr fun t ht => place_pair (owned.pairs _ (List.mem_map_of_mem ht))
  unfold ReferencePair.indices at pairs
  unfold toFunction total LinearExpr.total
  rw [Function.evaluate_canonicalQuadratic, terms, pairs]

namespace Expression

variable [Numeral N K]

omit [BEq K] in
theorem evaluate_linear (e : LinearExpr K) :
    (linear e : Expression N K).evaluate i.valuation = some (e.total i.number) :=
  e.evaluate_eq i.number

omit [BEq K] in
theorem evaluate_quadratic (e : QuadraticExpr K) :
    (quadratic e : Expression N K).evaluate i.valuation = some (e.total i.number) :=
  e.evaluate_eq i.number

mutual

/-- A function of an expression has the value of the expression. -/
theorem evaluate_toFunction [LawfulBEq K] : ∀ {e : Expression N K} {f : Function K}, e.toFunction = .ok f →
    (∀ v ∈ e.occurrences, v.model = model) →
    f.evaluate (i.interpretation model) = (e.evaluate i.valuation).map .scalar
  | .number n, f, h, _ => by
    obtain ⟨c, hc, h⟩ := Fallible.bind_eq_ok.1 h
    cases h
    have value : (number n : Expression N K).evaluate i.valuation = some c :=
      congrArg some (Numeral.value_of_toCoefficient hc)
    rw [value]
    rfl
  | .var v, f, h, owned => by
    cases h
    obtain rfl := owned v (by simp [occurrences])
    rfl
  | .linear e, f, h, owned => by
    cases h
    rw [evaluate_linear, Function.evaluate, LinearExpr.evaluate_toAffine i owned]
    rfl
  | .quadratic e, f, h, owned => by
    cases h
    rw [evaluate_quadratic]
    exact QuadraticExpr.evaluate_toFunction i (over_of_occurrences owned)
  | .nonlinear op args, f, h, owned => by
    obtain ⟨fs, hfs, h⟩ := Fallible.bind_eq_ok.1 h
    cases h
    have values := evaluateAll_toFunctions hfs owned
    rw [Function.evaluate, values, evaluate]
    cases evaluateAll i.valuation args with
    | none => rfl
    | some xs =>
      -- the arguments are numbers, so the shapes do not matter
      have applied : (i.interpretation model).operator op.head (xs.map .scalar)
          = i.operator op.head xs := by
        simp only [Meaning.interpretation, Shaped.mapM_only?]
        rfl
      change ((i.interpretation model).operator op.head (xs.map .scalar)).bind _
        = (i.operator op.head xs).map Shaped.scalar
      rw [applied]
      cases i.operator op.head xs <;> rfl

/-- The functions of arguments have the values of the arguments. -/
theorem evaluateAll_toFunctions [LawfulBEq K] : ∀ {es : List (Expression N K)} {fs : List (Function K)},
    toFunctions es = .ok fs → (∀ v ∈ occurrencesAll es, v.model = model) →
    Function.evaluateAll (i.interpretation model) fs
      = (evaluateAll i.valuation es).map (List.map .scalar)
  | [], fs, h, _ => by
    cases h
    rfl
  | e :: es, fs, h, owned => by
    obtain ⟨f, hf, h⟩ := Fallible.bind_eq_ok.1 h
    obtain ⟨gs, hgs, h⟩ := Fallible.bind_eq_ok.1 h
    cases h
    rw [Function.evaluateAll, evaluateAll,
      evaluate_toFunction hf fun v hv => owned v (List.mem_append_left _ hv),
      evaluateAll_toFunctions hgs fun v hv => owned v (List.mem_append_right _ hv)]
    cases e.evaluate i.valuation with
    | none => rfl
    | some x => cases evaluateAll i.valuation es <;> rfl

end

end Expression

/-! ## Functions of constraints -/

/-- The value of the left side of a constraint. -/
def ConstraintFunction.evaluate [Numeral N K] (v : Valuation Option N K) :
    ConstraintFunction N K → Option (Shaped K)
  | scalar e => (e.evaluate v).map .scalar
  | vector es => (es.mapM (Expression.evaluate v)).map .vector

variable [LawfulBEq K] [Numeral N K]

theorem Expression.evaluate_toAffine {e : Expression N K} (entry : e.isEntry)
    (owned : ∀ v ∈ e.occurrences, v.model = model) :
    e.toAffine.evaluate (i.interpretation model).value = e.evaluate i.valuation := by
  cases e with
  | var v =>
    have alone : (LinearExpr.ofVariable v : LinearExpr K).total i.number = i.number v := by
      simp [LinearExpr.total, LinearExpr.ofVariable]
    rw [toAffine, LinearExpr.evaluate_toAffine i (LinearExpr.over_ofVariable (owned v (by simp
      [occurrences]))), alone]
    rfl
  | linear e => rw [toAffine, LinearExpr.evaluate_toAffine i owned, evaluate_linear]
  | _ => cases entry

omit [BEq K] [LawfulBEq K] in
theorem Expression.evaluate_index {e : Expression N K} {v : Int} (h : e.index? = some v)
    (owned : ∀ v ∈ e.occurrences, v.model = model) :
    e.evaluate i.valuation = (i.interpretation model).value v := by
  cases e with
  | var w =>
    cases h
    obtain rfl := owned w (by simp [occurrences])
    rfl
  | _ => cases h

/-- The function of a constraint has the value of its left side. -/
theorem ConstraintFunction.evaluate_toFunction {f : ConstraintFunction N K} {g : Function K}
    (h : f.toFunction = .ok g) (fitted : f.IsFitted)
    (owned : ∀ e ∈ f.entries, ∀ v ∈ e.occurrences, v.model = model) :
    g.evaluate (i.interpretation model) = f.evaluate i.valuation := by
  cases f with
  | scalar e => exact Expression.evaluate_toFunction i h (owned e (by simp [entries]))
  | vector es =>
    rw [toFunction] at h
    split at h
    next vs hvs =>
      cases h
      have values : es.mapM (Expression.evaluate i.valuation)
          = vs.mapM (i.interpretation model).value := by
        have both := (List.forall₂_and_left _ _).2 ⟨owned, Fallible.mapM_eq_some.1 hvs⟩
        exact Fallible.mapM_congr (both.imp fun e v found =>
          Expression.evaluate_index i found.2 found.1)
      rw [evaluate, values, Function.evaluate]
      cases vs.mapM (i.interpretation model).value <;> rfl
    next =>
      cases h
      have values : (es.map Expression.toAffine).mapM
            (Affine.evaluate (i.interpretation model).value)
          = es.mapM (Expression.evaluate i.valuation) := by
        rw [List.mapM_map]
        exact Fallible.mapM_congr (List.forall₂_same.2 fun e he =>
          Expression.evaluate_toAffine i (fitted e he) (owned e he))
      rw [evaluate, ← values, Function.evaluate]
      cases (es.map Expression.toAffine).mapM (Affine.evaluate (i.interpretation model).value) <;> rfl

end MathProg
