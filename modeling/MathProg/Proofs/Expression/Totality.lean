import MathProg.Expression.Evaluation
import MathProg.Proofs.Expression.Over
import MathProg.Proofs.Function.Renaming
import MathProg.Proofs.Function.Totality
import MathProg.Proofs.Model.Represent

/-!
# Expressions that have values

An affine or quadratic expression has a value as soon as all its variables have one. With operators
an expression needs numbers that are coefficients and as many arguments as every operator takes. It
does not matter whether the expression is evaluated itself or its function.
-/

namespace MathProg

open Fallible

section Sums

variable {ε K : Type} [Add K] [Mul K] {value : VariableRef → Except ε K}

theorem LinearExpr.exists_evaluate {e : LinearExpr K}
    (known : e.Over fun v => ∃ x, value v = .ok x) : ∃ x, e.evaluate value = .ok x := by
  refine exists_foldlM (fun total t mem => ?_) e.constant
  exact exists_bind (known t.1 (List.mem_map_of_mem mem)) fun x => ⟨_, rfl⟩

theorem QuadraticExpr.exists_evaluate {e : QuadraticExpr K}
    (known : e.Over fun v => ∃ x, value v = .ok x) : ∃ x, e.evaluate value = .ok x := by
  refine exists_bind (LinearExpr.exists_evaluate known.linear) fun start => ?_
  refine exists_foldlM (fun total t mem => ?_) start
  obtain ⟨first, second⟩ := known.pairs t.1 (List.mem_map_of_mem mem)
  exact exists_bind first fun x => exists_bind second fun y => ⟨_, rfl⟩

/-- A variable or an affine or quadratic expression has a value if its variables have values. -/
theorem Expression.exists_evaluate_of_isScalarFunction {N : Type} {e : Expression N K}
    {i : Valuation (Except ε) N K} (scalar : e.isScalarFunction)
    (known : ∀ v ∈ e.occurrences, ∃ x, i.reference v = .ok x) : ∃ x, e.evaluate i = .ok x := by
  cases e with
  | number n => cases scalar
  | var v => exact known v (List.mem_singleton_self v)
  | linear e => exact LinearExpr.exists_evaluate known
  | quadratic e => exact QuadraticExpr.exists_evaluate (over_of_occurrences known)
  | nonlinear op args => cases scalar

end Sums

namespace Expression

variable {ε N K : Type}

/-! ## Lists of arguments -/

theorem mem_occurrencesAll {args : List (Expression N K)} {a : Expression N K} (mem : a ∈ args)
    {v : VariableRef} (used : v ∈ a.occurrences) : v ∈ occurrencesAll args := by
  induction args with
  | nil => cases mem
  | cons b args ih =>
    rcases List.mem_cons.1 mem with rfl | mem
    · exact List.mem_append_left _ used
    · exact List.mem_append_right _ (ih mem)

theorem evaluateAll_eq_mapM {m : Type → Type} [Monad m] [LawfulMonad m] [Add K] [Mul K]
    (i : Valuation m N K) (es : List (Expression N K)) :
    evaluateAll i es = es.mapM (·.evaluate i) := by
  induction es with
  | nil => rw [evaluateAll, List.mapM_nil]
  | cons e es ih => rw [evaluateAll, List.mapM_cons, ih]

theorem toFunctions_eq_mapM [Zero K] [Add K] [BEq K] [Numeral N K] (es : List (Expression N K)) :
    toFunctions es = es.mapM toFunction := by
  induction es with
  | nil => rfl
  | cons e es ih => rw [toFunctions, List.mapM_cons, ih]

/-! ## Operators in expressions -/

mutual

/-- The operators of an expression, each with the number of its arguments. -/
def nodes : Expression N K → List (Operator × Nat)
  | .nonlinear op args => (op, args.length) :: nodesAll args
  | _ => []

def nodesAll : List (Expression N K) → List (Operator × Nat)
  | [] => []
  | e :: es => e.nodes ++ nodesAll es

end

theorem nodesAll_eq_flatMap (es : List (Expression N K)) : nodesAll es = es.flatMap nodes := by
  induction es with
  | nil => rfl
  | cons e es ih => rw [nodesAll, List.flatMap_cons, ih]

/-- Whether every minus sign has one argument or two. -/
def SignsFit (e : Expression N K) : Prop :=
  ∀ n, (.minus, n) ∈ e.nodes → n = 1 ∨ n = 2

theorem signsFit_of_isScalarFunction {e : Expression N K} (scalar : e.isScalarFunction) :
    e.SignsFit := by
  cases e with
  | nonlinear op args => cases scalar
  | _ => exact fun n none => nomatch none

theorem signsFit_nonlinear {op : Operator} {args : List (Expression N K)} :
    (nonlinear op args).SignsFit ↔
      (∀ a ∈ args, a.SignsFit) ∧ (op = .minus → args.length = 1 ∨ args.length = 2) := by
  simp only [SignsFit, nodes, nodesAll_eq_flatMap, List.mem_cons, List.mem_flatMap, Prod.mk.injEq]
  constructor
  · exact fun h => ⟨fun a mem n inside => h n (.inr ⟨a, mem, inside⟩),
      fun sign => h args.length (.inl ⟨sign.symm, rfl⟩)⟩
  · rintro ⟨all, sign⟩ n (⟨rfl, rfl⟩ | ⟨a, mem, inside⟩)
    · exact sign rfl
    · exact all a mem n inside

/-! ## Trees -/

section Trees

variable [Numeral N Float]

/-- Whether the numbers of an expression fit into floats, and every operator has as many arguments
as its expression must give. -/
inductive IsAccepted : Expression N Float → Prop where
  | number {n : N} {x : Float} (fits : Numeral.toCoefficient n = .ok x) : IsAccepted (.number n)
  | scalar {e : Expression N Float} (scalar : e.isScalarFunction) : IsAccepted e
  | nonlinear {op : Operator} {args : List (Expression N Float)}
      (given : ∀ n, op.arity? = some n → args.length = n) (all : ∀ a ∈ args, IsAccepted a) :
      IsAccepted (.nonlinear op args)

variable {e : Expression N Float}

/-- In floats an accepted expression comes down to its minus signs: every other operator has as many
arguments as it takes. -/
theorem IsAccepted.settles_evaluate (h : e.IsAccepted) {i : Valuation (Except ε) N Float}
    {wrap : OperatorError → ε}
    (number : ∀ n x, Numeral.toCoefficient n = .ok x → i.number n = .ok x)
    (operator : ∀ op xs, i.operator op xs = (op.applyFloat xs).mapError wrap)
    (known : ∀ v ∈ e.occurrences, ∃ x, i.reference v = .ok x) :
    Settles e.SignsFit (wrap .arity) (fun _ => True) (e.evaluate i) := by
  induction h with
  | number fits => exact .of_ok (number _ _ fits) trivial fun n none => nomatch none
  | @scalar e scalar =>
    obtain ⟨x, value⟩ := e.exists_evaluate_of_isScalarFunction scalar known
    exact .of_ok value trivial (signsFit_of_isScalarFunction scalar)
  | @nonlinear op args given all ih =>
    have values : Settles (∀ a ∈ args, a.SignsFit) (wrap .arity)
        (fun xs => xs.length = args.length ∧ ∀ x ∈ xs, True) (evaluateAll i args) := by
      rw [evaluateAll_eq_mapM]
      exact .mapM (List.forall₂_same.2 fun a mem =>
        ih a mem fun v hv => known v (mem_occurrencesAll mem hv))
    refine (values.bind fun xs ⟨length, _⟩ => ?_).congr signsFit_nonlinear.symm
    rw [operator, ← length]
    exact Operator.settles_applyFloat wrap (length ▸ given)

/-- An accepted expression has a function. -/
theorem IsAccepted.exists_toFunction (h : e.IsAccepted) : ∃ f, e.toFunction = .ok f := by
  induction h with
  | @number n x fits => exact ⟨.number x, by rw [toFunction, fits]; rfl⟩
  | @scalar e scalar =>
    cases e with
    | number n => cases scalar
    | nonlinear op args => cases scalar
    | _ => exact ⟨_, rfl⟩
  | @nonlinear op args given all ih =>
    obtain ⟨fs, hfs⟩ := exists_mapM ih
    exact ⟨.nonlinear op.head fs, by rw [toFunction, toFunctions_eq_mapM, hfs]; rfl⟩

variable {f : Function Float}

/-- The function of an expression, under any numbers of its variables, comes down to the same. -/
theorem IsAccepted.settles_toFunction (h : e.IsAccepted) (translated : e.toFunction = .ok f)
    (φ : Int → Int) {i : Interpretation (Except ε) Float} {wrap : OperatorError → ε}
    (operator : ∀ head xs, i.operator head xs = (Operator.applyHead head xs).mapError wrap)
    (known : ∀ v ∈ e.occurrences, ∃ x, i.value (φ v.index) = .ok x) :
    Settles e.SignsFit (wrap .arity) (fun y => ∃ x, Shaped.scalar x = y)
      ((f.mapVariables φ).evaluate i) := by
  induction h generalizing f with
  | number fits =>
    obtain ⟨c, -, h⟩ := bind_eq_ok.1 translated
    cases h
    exact .of_ok rfl ⟨c, rfl⟩ fun n none => nomatch none
  | @scalar e scalar =>
    have family := Function.family_mapVariables_of_scalar (family_toFunction translated scalar) φ
    obtain ⟨x, value⟩ := Function.exists_evaluate_of_scalar (i := i) family fun v hv => by
      obtain ⟨u, hu, rfl⟩ := List.mem_map.1 (Function.mem_support_mapVariables hv)
      obtain ⟨w, hw, rfl⟩ := mem_support_toFunction translated hu
      exact known w hw
    exact .of_ok value ⟨x, rfl⟩ (signsFit_of_isScalarFunction scalar)
  | @nonlinear op args given all ih =>
    obtain ⟨fs, hfs, h⟩ := bind_eq_ok.1 translated
    cases h
    rw [toFunctions_eq_mapM, mapM_eq_ok] at hfs
    have values : Settles (∀ a ∈ args, a.SignsFit) (wrap .arity)
        (fun ys => ys.length = args.length ∧ ∀ y ∈ ys, ∃ x, Shaped.scalar x = y)
        (Function.evaluateAll i (Function.mapAllVariables φ fs)) := by
      rw [Function.evaluateAll_eq_mapM, Function.mapAllVariables_eq_map]
      refine .mapM (List.forall₂_map_right_iff.2 ?_)
      -- an argument goes together with its function, and is known to be one of the arguments
      have members := (List.forall₂_and_left _ _).2 ⟨fun a (mem : a ∈ args) => mem, hfs⟩
      exact members.imp fun a f ⟨mem, each⟩ =>
        ih a mem each fun v hv => known v (mem_occurrencesAll mem hv)
    refine (values.bind fun ys ⟨length, scalars⟩ => ?_).congr signsFit_nonlinear.symm
    obtain ⟨xs, rfl⟩ : ys ∈ Set.range (List.map Shaped.scalar) := by
      rw [Set.range_list_map]
      exact scalars
    rw [List.length_map] at length
    -- functions apply their heads to vectors as well, which changes nothing between numbers
    rw [operator, Operator.applyHead_scalars, ← length]
    have value : Settles (op = .minus → xs.length = 1 ∨ xs.length = 2) (wrap .arity)
        (fun _ => True) ((op.applyFloat xs).mapError wrap) :=
      Operator.settles_applyFloat wrap (length ▸ given)
    exact (value.bind fun x _ => .of_ok rfl ⟨x, rfl⟩ trivial).congr (by rw [and_true])

end Trees

end Expression

end MathProg
