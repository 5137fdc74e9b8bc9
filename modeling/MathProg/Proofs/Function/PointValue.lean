import MathProg.Proofs.Backend.NodeValue
import MathProg.Proofs.Function.Renaming
import MathProg.Proofs.Function.Totality

/-!
# Values at a point

A tree of operators, each with as many arguments as it takes, has a number as its value wherever its
variables have numbers. In exact arithmetic a sum is the sum of its arguments, however it is split,
and a product their product. Not everything that then has a value is defined: a quotient is only if
its divisor is not zero, and powers and functions have domains of their own.
-/

namespace MathProg

open Fallible

variable {K : Type}

/-! ## Pairwise sums -/

namespace Summation

variable [AddCommGroup K]

theorem fromLeft_eq (start : K) (xs : List K) : fromLeft start xs = start + xs.sum := by
  induction xs generalizing start with
  | nil => simp [fromLeft]
  | cons x xs ih =>
    have next : fromLeft start (x :: xs) = fromLeft (start + x) xs := rfl
    rw [next, ih, List.sum_cons, add_assoc]

theorem fromLeft_neg_zero (xs : List K) : fromLeft (-0) xs = xs.sum := by
  rw [fromLeft_eq, neg_zero, zero_add]

theorem join_eq (sums : List K) : join sums = sums.sum := by
  unfold join
  split
  · simp only [List.sum_cons, List.sum_nil]
    abel
  · rw [fromLeft_eq, zero_add]

theorem sum_addLanes {sums xs : List K} (same : sums.length = xs.length) :
    (addLanes sums xs).sum = sums.sum + xs.sum := by
  induction sums generalizing xs with
  | nil =>
    obtain rfl := List.length_eq_zero_iff.1 same.symm
    simp [addLanes]
  | cons s sums ih =>
    cases xs with
    | nil => cases same
    | cons x xs =>
      have rest : (List.zipWith (· + ·) sums xs).sum = sums.sum + xs.sum :=
        ih (Nat.succ.inj same)
      simp only [addLanes, List.zipWith_cons_cons, List.sum_cons, rest]
      abel

/-- What is in the running sums and what is left over add up to the same as before. -/
theorem sum_lanes (fuel : Nat) {sums rest : List K} (eight : sums.length = 8) :
    (lanes fuel sums rest).1.sum + (lanes fuel sums rest).2.sum = sums.sum + rest.sum := by
  induction fuel generalizing sums rest with
  | zero => rfl
  | succ fuel ih =>
    unfold lanes
    split
    next => rfl
    next long =>
      have group : (rest.take 8).length = 8 := by
        rw [List.length_take]
        omega
      have next : (addLanes sums (rest.take 8)).length = 8 := by
        rw [addLanes, List.length_zipWith, eight, group, Nat.min_self]
      rw [ih next, sum_addLanes (eight.trans group.symm), add_assoc, List.sum_take_add_sum_drop]

theorem pairwise_go_eq (fuel : Nat) (xs : List K) : pairwise.go fuel xs = xs.sum := by
  induction fuel generalizing xs with
  | zero => exact fromLeft_neg_zero xs
  | succ fuel ih =>
    unfold pairwise.go
    dsimp only
    split
    next => exact fromLeft_neg_zero xs
    next long =>
      split
      next =>
        have eight : (xs.take 8).length = 8 := by
          rw [List.length_take]
          omega
        rw [fromLeft_eq, join_eq, sum_lanes _ eight, List.sum_take_add_sum_drop]
      next => rw [ih, ih, List.sum_take_add_sum_drop]

/-- The pairwise sum is the sum. -/
theorem pairwise_eq (xs : List K) : pairwise xs = xs.sum :=
  pairwise_go_eq _ xs

end Summation

/-! ## Operators -/

namespace Operator

theorem head_of_ofHead? {head : String} {op : Operator} (h : ofHead? head = some op) :
    head = op.head := by
  have found := List.find?_some h
  exact (eq_of_beq found).symm

section

variable [Field K] [ElementaryFunctions K]

theorem applyNumbers_sum (xs : List K) : sum.applyNumbers xs = .ok xs.sum :=
  congrArg Except.ok ((zero_add _).trans (Summation.pairwise_eq xs))

theorem applyNumbers_product (xs : List K) : product.applyNumbers xs = .ok xs.prod :=
  congrArg Except.ok List.prod_eq_foldl.symm

end

end Operator

/-- Where powers and functions of one argument are defined. -/
class FunctionDomain (K : Type) where
  power : K → K → Prop
  function : Operator → K → Prop

/-- Whether an operator is defined on numbers. -/
def FunctionDomain.Allows [Zero K] [FunctionDomain K] (op : Operator) (xs : List K) : Prop :=
  match op, xs with
  | .quotient, [_, y] => y ≠ 0
  | .power, [x, y] => power x y
  | .sin, [x] | .cos, [x] | .exp, [x] | .log, [x] | .sqrt, [x] => function op x
  | _, _ => True

/-! ## Functions -/

/-- Variables have the given numbers, and operators the values of the table. -/
def Interpretation.ofPoint [OperatorMeaning K] (x : Int → K) :
    Interpretation (Except OperatorError) K :=
  ⟨fun v => .ok (x v), Operator.applyHead⟩

/-- Whether an interpretation gives the variables the numbers of a point, and operators the values
of the table. -/
structure Interpretation.IsAt {ε : Type} [OperatorMeaning K] (i : Interpretation (Except ε) K)
    (x : Int → K) (vs : List Int) : Prop where
  value : ∀ v ∈ vs, i.value v = .ok (x v)
  operator : ∀ head args y, Operator.applyHead head args = .ok y → i.operator head args = .ok y

theorem Interpretation.isAt_ofPoint [OperatorMeaning K] (x : Int → K) (vs : List Int) :
    (Interpretation.ofPoint x).IsAt x vs :=
  ⟨fun _ _ => rfl, fun _ _ _ h => h⟩

theorem Interpretation.IsAt.of_subset {ε : Type} [OperatorMeaning K]
    {i : Interpretation (Except ε) K} {x : Int → K} {vs ws : List Int} (h : i.IsAt x vs)
    (inside : ∀ v ∈ ws, v ∈ vs) : i.IsAt x ws :=
  ⟨fun v hv => h.value v (inside v hv), h.operator⟩

namespace Function

/-- Whether a function is a number, a scalar function, or an operator on as many of these as it
takes. -/
inductive IsTree : Function K → Prop where
  | number (c : K) : IsTree (.number c)
  | scalar {f : Function K} (family : f.family ∈ Algebraic.scalarFamilies) : IsTree f
  | nonlinear {head : String} {op : Operator} {args : List (Function K)}
      (known : Operator.ofHead? head = some op) (takes : op.takes args.length = true)
      (all : ∀ a ∈ args, a.IsTree) : IsTree (.nonlinear head args)

theorem IsTree.args {head : String} {args : List (Function K)}
    (h : (Function.nonlinear head args).IsTree) : ∃ op, Operator.ofHead? head = some op ∧
      op.takes args.length = true ∧ ∀ a ∈ args, a.IsTree := by
  cases h with
  | scalar family => simp [Function.family, Algebraic.scalarFamilies] at family
  | nonlinear known takes all => exact ⟨_, known, takes, all⟩

/-- The number that a function is at a point; zero if it is none. -/
def numberAt [Zero K] [Add K] [Mul K] [OperatorMeaning K] (x : Int → K) (f : Function K) : K :=
  match f.evaluate (.ofPoint x) with
  | .ok (.scalar c) => c
  | _ => 0

/-- Whether all quotients, powers and functions in a tree are defined at a point. -/
inductive IsDefinedAt [Zero K] [Add K] [Mul K] [OperatorMeaning K] [FunctionDomain K]
    (x : Int → K) : Function K → Prop where
  | leaf {f : Function K} (other : f.family ≠ .nonlinear) : IsDefinedAt x f
  | nonlinear {head : String} {op : Operator} {args : List (Function K)}
      (known : Operator.ofHead? head = some op)
      (allowed : FunctionDomain.Allows op (args.map (numberAt x)))
      (all : ∀ a ∈ args, a.IsDefinedAt x) : IsDefinedAt x (.nonlinear head args)

/-! ### Leaves -/

section Leaves

variable [CommRing K] {ε : Type} {value : Int → Except ε K} {x : Int → K}

theorem evaluate_affine_ok {f : Affine K}
    (known : ∀ v ∈ f.terms.map Prod.fst, value v = .ok (x v)) :
    f.evaluate value = .ok (f.constant + Terms.value x f.terms) := by
  have added : f.evaluate value = .ok (f.constant + (0 + Terms.value x f.terms)) := by
    refine bind_eq_ok.2 ⟨_, foldlM_add (fun t mem s => ?_) 0, rfl⟩
    simp only [known t.1 (List.mem_map_of_mem mem)]
    rfl
  rw [added, zero_add]

theorem evaluate_quadratic_ok {f : Quadratic K}
    (known : ∀ v ∈ (quadratic f).support, value v = .ok (x v)) :
    f.evaluate value = .ok (f.constant + Terms.value x f.terms
      + Terms.value (fun p => x p.first * x p.second) f.pairs) := by
  have linear := evaluate_affine_ok (f := ⟨f.terms, f.constant⟩) fun v hv =>
    known v (List.mem_append_right _ hv)
  have added : f.evaluate value = .ok (f.constant + Terms.value x f.terms
      + (0 + Terms.value (fun p => x p.first * x p.second) f.pairs)) := by
    refine bind_eq_ok.2 ⟨_, linear, bind_eq_ok.2 ⟨_, foldlM_add (fun t mem s => ?_) 0, rfl⟩⟩
    have inside : ∀ v ∈ [t.1.first, t.1.second], value v = .ok (x v) := fun v hv =>
      known v (List.mem_append_left _ (List.mem_flatMap.2 ⟨t, mem, hv⟩))
    simp only [inside t.1.first (by simp), inside t.1.second (by simp)]
    exact congrArg (fun y => Except.ok (s + y)) (mul_assoc _ _ _)
  rw [added, zero_add]

theorem exists_scalarAt {f : Function K} (family : f.family ∈ Algebraic.scalarFamilies)
    (x : Int → K) : ∃ c, f.scalarAt? x = some c := by
  cases f with
  | var | affine | quadratic => exact ⟨_, rfl⟩
  | _ => simp [Function.family, Algebraic.scalarFamilies] at family

theorem evaluate_scalar {i : Interpretation (Except ε) K} {f : Function K}
    (known : ∀ v ∈ f.support, i.value v = .ok (x v)) {c : K} (h : f.scalarAt? x = some c) :
    f.evaluate i = .ok (.scalar c) := by
  cases f with
  | var v =>
    obtain rfl := Option.some.inj h
    rw [evaluate, known v (List.mem_singleton_self v)]
    rfl
  | affine f =>
    obtain rfl := Option.some.inj h
    rw [evaluate, evaluate_affine_ok known]
    rfl
  | quadratic f =>
    obtain rfl := Option.some.inj h
    rw [evaluate, evaluate_quadratic_ok known]
    rfl
  | _ => cases h

end Leaves

/-! ### Trees -/

section Trees

variable [Field K] [ElementaryFunctions K] {x : Int → K} {ε : Type}

theorem numberAt_of_evaluate {f : Function K} {c : K}
    (h : f.evaluate (.ofPoint x) = .ok (.scalar c)) : f.numberAt x = c := by
  rw [numberAt, h]

/-- An operator has the value that the table gives for the values of its arguments. -/
theorem evaluate_nonlinear {i : Interpretation (Except ε) K} {vs : List Int} (h : i.IsAt x vs)
    {head : String} {op : Operator} {args : List (Function K)}
    (known : Operator.ofHead? head = some op)
    (values : ∀ a ∈ args, a.evaluate i = .ok (.scalar (a.numberAt x))) {c : K}
    (value : op.applyNumbers (args.map (numberAt x)) = .ok c) :
    (nonlinear head args).evaluate i = .ok (.scalar c) := by
  have all : evaluateAll i args = .ok ((args.map (numberAt x)).map .scalar) := by
    rw [evaluateAll_eq_mapM, List.map_map]
    exact mapM_ok values
  have applied : Operator.applyHead head ((args.map (numberAt x)).map .scalar) = .ok c := by
    rw [Operator.head_of_ofHead? known, Operator.applyHead_numbers, value]
  exact bind_eq_ok.2 ⟨_, all, bind_eq_ok.2 ⟨c, h.operator _ _ _ applied, rfl⟩⟩

/-- Under every interpretation at a point, a tree has its number there as its value. -/
theorem IsTree.evaluate_eq {f : Function K} (tree : f.IsTree) :
    ∀ i : Interpretation (Except ε) K, i.IsAt x f.support →
      f.evaluate i = .ok (.scalar (f.numberAt x)) := by
  induction tree generalizing ε with
  | number c => exact fun _ _ => rfl
  | @scalar f family =>
    obtain ⟨c, value⟩ := exists_scalarAt family x
    intro i h
    rw [numberAt_of_evaluate (evaluate_scalar (Interpretation.isAt_ofPoint x _).value value)]
    exact evaluate_scalar h.value value
  | @nonlinear head op args known takes _ ih =>
    have fits : op.takes (args.map (numberAt x)).length := by rwa [List.length_map]
    obtain ⟨c, value⟩ := Operator.exists_applyNumbers fits
    have arguments {ε : Type} {i : Interpretation (Except ε) K}
        (h : i.IsAt x (Function.nonlinear head args).support) :
        ∀ a ∈ args, a.evaluate i = .ok (.scalar (a.numberAt x)) := fun a mem =>
      ih a mem i (h.of_subset fun v hv => mem_supportAll mem hv)
    intro i h
    have here := Interpretation.isAt_ofPoint x (Function.nonlinear head args).support
    rw [numberAt_of_evaluate (evaluate_nonlinear here known (arguments here) value)]
    exact evaluate_nonlinear h known (arguments h) value

/-- The number of an operator is what the table gives for the numbers of its arguments. -/
theorem IsTree.applyNumbers_eq {head : String} {args : List (Function K)} {op : Operator}
    (known : Operator.ofHead? head = some op) (takes : op.takes args.length = true)
    (all : ∀ a ∈ args, a.IsTree) :
    op.applyNumbers (args.map (numberAt x)) = .ok ((Function.nonlinear head args).numberAt x) := by
  have fits : op.takes (args.map (numberAt x)).length := by rwa [List.length_map]
  obtain ⟨c, value⟩ := Operator.exists_applyNumbers fits
  have here := Interpretation.isAt_ofPoint x (Function.nonlinear head args).support
  rw [value, numberAt_of_evaluate (evaluate_nonlinear here known (fun a mem =>
    (all a mem).evaluate_eq _ (here.of_subset fun v hv => mem_supportAll mem hv)) value)]

end Trees

end Function

end MathProg
