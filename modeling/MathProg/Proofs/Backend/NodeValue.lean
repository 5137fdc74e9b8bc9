import Mathlib
import MathProg.Backend.Algebraic
import MathProg.Proofs.Fallible
import MathProg.Proofs.Function.Value

/-!
# Values of nodes

Over exact arithmetic the simplifications that nodes undergo while they are built do not show: a sum
has the value of a sum and a product that of a product. The node of a variable or of an affine or
quadratic function thus has the value of the function at every assignment.
-/

namespace MathProg

open Fallible

variable {N K V : Type}

/-! ## Exact arithmetic -/

/-- Arithmetic whose values are coefficients without loss, with the sums and products of the
coefficients. -/
class ExactArithmetic (N K : Type) (V : outParam Type) [CommRing K] [CheckedArithmetic N K V] :
    Prop where
  exists_toCoefficient : ∀ x : V, ∃ c : K, CheckedArithmetic.toCoefficient N x = .ok c
  toCoefficient_ofCoefficient : ∀ c : K,
    CheckedArithmetic.toCoefficient N (CheckedArithmetic.ofCoefficient N c : V) = .ok c
  toCoefficient_ofNat : ∀ n : Nat,
    CheckedArithmetic.toCoefficient N (CheckedArithmetic.ofNat N K n : V) = .ok (n : K)
  isNat_iff : ∀ (x : V) (n : Nat), CheckedArithmetic.isNat N K x n = true ↔
    CheckedArithmetic.toCoefficient N x = .ok (n : K)
  apply_add : ∀ (x y : V) (c d : K), CheckedArithmetic.toCoefficient N x = .ok c →
    CheckedArithmetic.toCoefficient N y = .ok d →
    ∃ z : V, CheckedArithmetic.apply N K .add x y = .ok z ∧
      CheckedArithmetic.toCoefficient N z = .ok (c + d)
  apply_mul : ∀ (x y : V) (c d : K), CheckedArithmetic.toCoefficient N x = .ok c →
    CheckedArithmetic.toCoefficient N y = .ok d →
    ∃ z : V, CheckedArithmetic.apply N K .mul x y = .ok z ∧
      CheckedArithmetic.toCoefficient N z = .ok (c * d)

namespace CheckedArithmetic

variable [CommRing K] [CheckedArithmetic N K V]

/-- The coefficient that a value is; zero if it is none. -/
def value (N : Type) [CheckedArithmetic N K V] (x : V) : K :=
  (toCoefficient N x).toOption.getD 0

theorem value_of_toCoefficient {x : V} {c : K} (h : toCoefficient N x = .ok c) :
    value N x = c := by
  rw [value, h]
  rfl

variable [ExactArithmetic N K V]

theorem toCoefficient_eq (x : V) : toCoefficient N x = .ok (value N x : K) := by
  obtain ⟨c, hc⟩ := ExactArithmetic.exists_toCoefficient (N := N) (K := K) x
  rw [hc, value_of_toCoefficient hc]

@[simp] theorem value_ofCoefficient (c : K) : value N (ofCoefficient N c : V) = c :=
  value_of_toCoefficient (ExactArithmetic.toCoefficient_ofCoefficient c)

@[simp] theorem value_ofNat (n : Nat) : (value N (ofNat N K n : V) : K) = n :=
  value_of_toCoefficient (ExactArithmetic.toCoefficient_ofNat n)

theorem value_of_isNat {x : V} {n : Nat} (h : isNat N K x n) : (value N x : K) = n :=
  value_of_toCoefficient ((ExactArithmetic.isNat_iff x n).1 h)

theorem exists_add (x y : V) :
    ∃ z : V, apply N K .add x y = .ok z ∧ (value N z : K) = value N x + value N y := by
  obtain ⟨z, added, hz⟩ := ExactArithmetic.apply_add x y _ _
    (toCoefficient_eq (N := N) (K := K) x) (toCoefficient_eq y)
  exact ⟨z, added, value_of_toCoefficient hz⟩

theorem exists_mul (x y : V) :
    ∃ z : V, apply N K .mul x y = .ok z ∧ (value N z : K) = value N x * value N y := by
  obtain ⟨z, multiplied, hz⟩ := ExactArithmetic.apply_mul x y _ _
    (toCoefficient_eq (N := N) (K := K) x) (toCoefficient_eq y)
  exact ⟨z, multiplied, value_of_toCoefficient hz⟩

end CheckedArithmetic

/-- The operators on rational numbers; a power must have a natural exponent. -/
def ArithmeticOp.applyRational (op : ArithmeticOp) (x y : ℚ) : Except ArithmeticError ℚ :=
  match op with
  | add => .ok (x + y)
  | sub => .ok (x - y)
  | mul => .ok (x * y)
  | div => if y = 0 then .error .divisionByZero else .ok (x / y)
  | floorDiv => if y = 0 then .error .divisionByZero else .ok ⌊x / y⌋
  | mod => if y = 0 then .error .divisionByZero else .ok (x - y * ⌊x / y⌋)
  | pow => if y.den = 1 ∧ 0 ≤ y.num then .ok (x ^ y.num.toNat) else .error .domain

/-- Rational numbers, of which there are no complex ones. -/
instance rationalArithmetic : CheckedArithmetic ℚ ℚ ℚ where
  ofCoefficient c := c
  ofNumber n := n
  ofNat n := n
  ofComplex _ := 0
  parts x := .inl x
  toCoefficient := .ok
  isNat x n := x == n
  neg x := -x
  apply := ArithmeticOp.applyRational
  call op x := if op = .abs then .ok |x| else .error .domain
  extent _ := .finite

instance exactRational : ExactArithmetic ℚ ℚ ℚ where
  exists_toCoefficient x := ⟨x, rfl⟩
  toCoefficient_ofCoefficient _ := rfl
  toCoefficient_ofNat _ := rfl
  isNat_iff x n := by
    change (x == (n : ℚ)) = true ↔ Except.ok x = Except.ok (n : ℚ)
    rw [beq_iff_eq, Except.ok.injEq]
  apply_add x y c d hc hd := by
    obtain rfl := Except.ok.inj hc
    obtain rfl := Except.ok.inj hd
    exact ⟨_, rfl, rfl⟩
  apply_mul x y c d hc hd := by
    obtain rfl := Except.ok.inj hc
    obtain rfl := Except.ok.inj hd
    exact ⟨_, rfl, rfl⟩

/-! ## Values -/

namespace Node

open CheckedArithmetic (value value_of_isNat exists_add exists_mul)

variable [CommRing K] [CheckedArithmetic N K V]

/-- How the variables of nodes are read, and what faults are reported as. -/
structure Reading (ε V : Type) where
  fault : ArithmeticError → ε
  read : Nat → Except ε V

/-- The variables have the given numbers. -/
def Reading.point (N : Type) [CheckedArithmetic N K V] (a : Nat → K) :
    Reading ArithmeticError V :=
  ⟨id, fun v => .ok (CheckedArithmetic.ofCoefficient N (a v))⟩

/-- The value of a node under a reading. -/
def valueIn? {ε : Type} (N : Type) [CheckedArithmetic N K V] (i : Reading ε V) (n : Node V) :
    Option K :=
  (n.evaluate N K i.fault i.read).toOption.map (value N)

/-- The value of a node where the variables have the given numbers. -/
def valueAt? (N : Type) [CheckedArithmetic N K V] (a : Nat → K) (n : Node V) : Option K :=
  ((n.evaluate N K id (fun v => .ok (CheckedArithmetic.ofCoefficient N (a v)))).toOption).map
    (value N)

variable {ε : Type} {i : Reading ε V}

omit [CommRing K] in
theorem evaluateAll_eq (fault : ArithmeticError → ε) (x : Nat → Except ε V)
    (args : List (Node V)) :
    evaluateAll N K fault x args = args.mapM (evaluate N K fault x) := by
  induction args with
  | nil => rw [evaluateAll]; rfl
  | cons n args ih => rw [evaluateAll, List.mapM_cons, ih]

@[simp] theorem valueIn_constant (x : V) :
    (constant x).valueIn? N i = some (value N x : K) := by
  rw [valueIn?, evaluate]
  rfl

theorem valueIn_eq_some {n : Node V} {x : K} : n.valueIn? N i = some x ↔
    ∃ z, n.evaluate N K i.fault i.read = .ok z ∧ value N z = x := by
  unfold valueIn?
  cases n.evaluate N K i.fault i.read with
  | error e => simp [Except.toOption]
  | ok z => simp [Except.toOption]

/-- Whether the nodes have values that sum up to a number. -/
def Total (N : Type) [CheckedArithmetic N K V] (i : Reading ε V) (args : List (Node V)) (x : K) :
    Prop :=
  ∃ xs, List.Forall₂ (fun n x => n.valueIn? N i = some x) args xs ∧ xs.sum = x

theorem Total.singleton {n : Node V} {x : K} (h : n.valueIn? N i = some x) :
    Total N i [n] x :=
  ⟨[x], .cons h .nil, by simp⟩

theorem Total.append {args args' : List (Node V)} {x y : K} (h : Total N i args x)
    (h' : Total N i args' y) : Total N i (args ++ args') (x + y) := by
  obtain ⟨xs, values, rfl⟩ := h
  obtain ⟨ys, values', rfl⟩ := h'
  exact ⟨xs ++ ys, List.rel_append values values', List.sum_append⟩

theorem Total.pair {m n : Node V} {x y : K} (hm : m.valueIn? N i = some x)
    (hn : n.valueIn? N i = some y) : Total N i [m, n] (x + y) :=
  (Total.singleton hm).append (.singleton hn)

variable [ExactArithmetic N K V]

@[simp] theorem valueIn_var_point (a : Nat → K) (v : Nat) :
    (var v : Node V).valueIn? N (.point N a) = some (a v) := by
  rw [valueIn?, evaluate]
  exact congrArg some (CheckedArithmetic.value_ofCoefficient _)

/-- A number times a variable has the value of the variable times the number. -/
theorem valueIn_monomial (c : V) (v : Nat) : (monomial c v).valueIn? N i =
    ((var v : Node V).valueIn? N i).map (fun y : K => value N c * y) := by
  unfold valueIn?
  rw [evaluate, evaluate]
  cases i.read v with
  | error e => rfl
  | ok y =>
    obtain ⟨z, multiplied, hz⟩ := exists_mul (N := N) (K := K) c y
    simp only [bind, Except.bind, multiplied]
    exact congrArg some hz

/-- The total of values is their sum. -/
theorem exists_total (xs : List V) :
    ∃ z, total N K i.fault xs = .ok z ∧ (value N z : K) = (xs.map (value N)).sum := by
  cases xs with
  | nil => exact ⟨_, rfl, by simp⟩
  | cons x xs =>
    rw [total]
    induction xs generalizing x with
    | nil => exact ⟨x, rfl, by simp⟩
    | cons y xs ih =>
      obtain ⟨s, added, hs⟩ := exists_add (N := N) (K := K) x y
      obtain ⟨z, hz, sum⟩ := ih s
      refine ⟨z, ?_, ?_⟩
      · rw [List.foldlM_cons, added]
        exact hz
      · rw [sum, List.map_cons, List.sum_cons, hs]
        simp [add_assoc]

theorem valueIn_product {m n : Node V} {x y : K} (hm : m.valueIn? N i = some x)
    (hn : n.valueIn? N i = some y) : (product m n).valueIn? N i = some (x * y) := by
  obtain ⟨u, hu, rfl⟩ := valueIn_eq_some.1 hm
  obtain ⟨v, hv, rfl⟩ := valueIn_eq_some.1 hn
  obtain ⟨z, multiplied, hz⟩ := exists_mul (N := N) (K := K) u v
  refine valueIn_eq_some.2 ⟨z, ?_, hz⟩
  rw [evaluate, hu, hv]
  simp only [bind, Except.bind, multiplied]
  rfl

/-! ## Sums -/

/-- Members are evaluated one by one and then added from the left. -/
theorem evaluate_total {args : List (Node V)} {x : K} :
    (∃ z, (do total N K i.fault (← evaluateAll N K i.fault i.read args)) = .ok z ∧
        value N z = x) ↔
      Total N i args x := by
  rw [evaluateAll_eq]
  simp only [bind_eq_ok, mapM_eq_ok]
  constructor
  · rintro ⟨z, ⟨vs, evaluated, added⟩, rfl⟩
    obtain ⟨z', added', sum⟩ := exists_total (N := N) (K := K) vs
    obtain rfl : z' = z := Except.ok.inj (added'.symm.trans added)
    refine ⟨vs.map (value N), ?_, sum.symm⟩
    rw [List.forall₂_map_right_iff]
    exact evaluated.imp fun n v h => valueIn_eq_some.2 ⟨v, h, rfl⟩
  · rintro ⟨xs, values, rfl⟩
    have evaluated : ∃ vs, List.Forall₂ (fun n v => evaluate N K i.fault i.read n = .ok v) args vs ∧
        vs.map (value N) = xs := by
      induction values with
      | nil => exact ⟨[], .nil, rfl⟩
      | cons first _ ih =>
        obtain ⟨v, hv, rfl⟩ := valueIn_eq_some.1 first
        obtain ⟨vs, hvs, rfl⟩ := ih
        exact ⟨v :: vs, .cons hv hvs, rfl⟩
    obtain ⟨vs, hvs, rfl⟩ := evaluated
    obtain ⟨z, added, sum⟩ := exists_total (N := N) (K := K) vs
    exact ⟨z, ⟨vs, hvs, added⟩, sum⟩

theorem valueIn_linear {args : List (Node V)} {x : K} :
    (linear args).valueIn? N i = some x ↔ Total N i args x := by
  rw [valueIn_eq_some, evaluate, evaluate_total]

theorem valueIn_sum {args : List (Node V)} {x : K} :
    (sum args).valueIn? N i = some x ↔ Total N i args x := by
  rw [valueIn_eq_some, evaluate, evaluate_total]

/-! ## Building nodes -/

theorem valueIn_addNumber {c n : Node V} {both : List (Node V)} {x y : K}
    (hc : c.valueIn? N i = some y) (hn : n.valueIn? N i = some x) (h : Total N i both (x + y)) :
    (addNumber c n both).valueIn? N i = some (x + y) := by
  unfold addNumber
  split
  next args => exact valueIn_linear.2 ((valueIn_linear.1 hn).append (.singleton hc))
  next args => exact valueIn_sum.2 ((valueIn_sum.1 hn).append (.singleton hc))
  next => exact valueIn_linear.2 h
  next => exact valueIn_linear.2 h
  next => exact valueIn_sum.2 h

theorem valueIn_join {m n : Node V} {x y : K} (hm : m.valueIn? N i = some x)
    (hn : n.valueIn? N i = some y) : (join m n).valueIn? N i = some (x + y) := by
  unfold join
  split
  next => exact valueIn_sum.2 ((valueIn_sum.1 hm).append (valueIn_sum.1 hn))
  next => exact valueIn_sum.2 ((valueIn_sum.1 hm).append (.singleton hn))
  next =>
    -- a sum on the right takes the left node in at its end
    rw [add_comm]
    exact valueIn_sum.2 ((valueIn_sum.1 hn).append (.singleton hm))
  next => exact valueIn_linear.2 ((valueIn_linear.1 hm).append (valueIn_linear.1 hn))
  next =>
    split
    · exact valueIn_linear.2 ((valueIn_linear.1 hm).append (.singleton hn))
    · exact valueIn_sum.2 (.pair hm hn)
  next =>
    split
    · rw [add_comm]
      exact valueIn_linear.2 ((valueIn_linear.1 hn).append (.singleton hm))
    · exact valueIn_sum.2 (.pair hm hn)
  next =>
    split
    · exact valueIn_linear.2 (.pair hm hn)
    · exact valueIn_sum.2 (.pair hm hn)

theorem valueIn_add {m n s : Node V} {x y : K} (hm : m.valueIn? N i = some x)
    (hn : n.valueIn? N i = some y) (added : add N K m n = .ok s) :
    s.valueIn? N i = some (x + y) := by
  unfold add at added
  split at added
  next => cases added
  next => cases added
  next c d =>
    obtain ⟨z, hz, sum⟩ := exists_add (N := N) (K := K) c d
    rw [hz] at added
    obtain rfl := pure_eq_ok.1 added
    rw [valueIn_constant, Option.some.injEq] at hm hn ⊢
    rw [sum, hm, hn]
  next c n _ _ =>
    obtain ⟨-, -, added⟩ := bind_eq_ok.1 added
    split at added
    next zero =>
      -- zero is not added
      obtain rfl := pure_eq_ok.1 added
      rw [valueIn_constant, value_of_isNat zero, Option.some.injEq] at hm
      rw [hn, ← hm, Nat.cast_zero, zero_add]
    next =>
      obtain rfl := pure_eq_ok.1 added
      rw [add_comm]
      exact valueIn_addNumber hm hn (add_comm x y ▸ .pair hm hn)
  next m d _ _ =>
    obtain ⟨-, -, added⟩ := bind_eq_ok.1 added
    split at added
    next zero =>
      obtain rfl := pure_eq_ok.1 added
      rw [valueIn_constant, value_of_isNat zero, Option.some.injEq] at hn
      rw [hm, ← hn, Nat.cast_zero, add_zero]
    next =>
      obtain rfl := pure_eq_ok.1 added
      exact valueIn_addNumber hn hm (.pair hm hn)
  next =>
    obtain rfl := Except.ok.inj added
    exact valueIn_join hm hn

theorem valueIn_scale {c : V} {n otherwise s : Node V} {y : K} (hn : n.valueIn? N i = some y)
    (ho : otherwise.valueIn? N i = some (value N c * y)) (scaled : scale N K c n otherwise = .ok s) :
    s.valueIn? N i = some (value N c * y) := by
  unfold scale at scaled
  obtain ⟨-, -, scaled⟩ := bind_eq_ok.1 scaled
  split at scaled
  next one =>
    -- nothing is multiplied by one
    obtain rfl := pure_eq_ok.1 scaled
    rw [hn, value_of_isNat one, Nat.cast_one, one_mul]
  next =>
    split at scaled
    next v =>
      obtain rfl := pure_eq_ok.1 scaled
      rw [valueIn_monomial, hn]
      rfl
    next d v _ =>
      obtain ⟨z, hz, product⟩ := exists_mul (N := N) (K := K) c d
      rw [hz] at scaled
      obtain rfl := pure_eq_ok.1 scaled
      rw [valueIn_monomial] at hn ⊢
      obtain ⟨u, hu, rfl⟩ := Option.map_eq_some_iff.1 hn
      rw [hu, product, Option.map_some, mul_assoc]
    next =>
      obtain rfl := pure_eq_ok.1 scaled
      exact ho

theorem valueIn_mul {m n s : Node V} {x y : K} (hm : m.valueIn? N i = some x)
    (hn : n.valueIn? N i = some y) (multiplied : mul N K m n = .ok s) :
    s.valueIn? N i = some (x * y) := by
  -- what is built where nothing can be simplified
  have product := valueIn_product hm hn
  unfold mul at multiplied
  split at multiplied
  next => cases multiplied
  next => cases multiplied
  next c d =>
    obtain ⟨z, hz, value⟩ := exists_mul (N := N) (K := K) c d
    rw [hz] at multiplied
    obtain rfl := pure_eq_ok.1 multiplied
    rw [valueIn_constant, Option.some.injEq] at hm hn ⊢
    rw [value, hm, hn]
  next c n _ _ =>
    rw [valueIn_constant, Option.some.injEq] at hm
    subst hm
    exact valueIn_scale hn product multiplied
  next m d _ _ =>
    rw [valueIn_constant, Option.some.injEq] at hn
    subst hn
    rw [mul_comm] at product ⊢
    exact valueIn_scale hm product multiplied
  next =>
    obtain rfl := Except.ok.inj multiplied
    exact product

theorem valueIn_addAll {args : List (Node V)} {xs : List K} {s : Node V}
    (values : List.Forall₂ (fun n x => n.valueIn? N i = some x) args xs)
    (added : addAll N K args = .ok s) : s.valueIn? N i = some xs.sum := by
  -- the sum runs from the left, so that the induction is over every start
  have from_start (start : Node V) (x : K) (hx : start.valueIn? N i = some x)
      (added : args.foldlM (add N K) start = .ok s) : s.valueIn? N i = some (x + xs.sum) := by
    clear * - values hx added
    induction values generalizing start x with
    | nil =>
      obtain rfl := pure_eq_ok.1 added
      rw [List.sum_nil, add_zero, hx]
    | cons first _ ih =>
      rw [List.foldlM_cons] at added
      obtain ⟨next, one, rest⟩ := bind_eq_ok.1 added
      rw [List.sum_cons, ← add_assoc]
      exact ih next _ (valueIn_add hx first one) rest
  have zero : (number N K 0 : Node V).valueIn? N i = some (0 : K) := by
    rw [number, valueIn_constant, CheckedArithmetic.value_ofNat, Nat.cast_zero]
  rw [from_start _ _ zero added, zero_add]

end Node

/-! ## Scalar functions -/

namespace Function

variable [CommRing K]

/-- The value of a variable or of an affine or quadratic function. -/
def scalarAt? (x : Int → K) : Function K → Option K
  | .var v => some (x v)
  | .affine f => some (f.constant + Terms.value x f.terms)
  | .quadratic f => some (f.constant + Terms.value x f.terms
      + Terms.value (fun q => x q.first * x q.second) f.pairs)
  | _ => none

/-- Under any meaning such a function has this value. -/
theorem evaluate_of_scalarAt (i : Meaning K) (model : Nat) {f : Function K} {c : K}
    (h : f.scalarAt? (i.place model) = some c) :
    f.evaluate (i.interpretation model) = some (.scalar c) := by
  cases f with
  | var v =>
    obtain rfl := Option.some.inj h
    rfl
  | affine f =>
    obtain rfl := Option.some.inj h
    exact evaluate_affine i model f
  | quadratic f =>
    obtain rfl := Option.some.inj h
    exact evaluate_quadratic i model f
  | _ => cases h

theorem scalarAt_canonicalQuadratic [BEq K] [LawfulBEq K] (x : Int → K)
    (pairs : List (VariablePair × K)) (terms : List (Int × K)) (c : K) :
    (canonicalQuadratic pairs terms c).scalarAt? x = some (c + Terms.value x terms
      + Terms.value (fun q => x q.first * x q.second) pairs) := by
  unfold canonicalQuadratic
  simp only
  split
  next none =>
    have zero := Terms.value_canonical
      (w := fun q : VariablePair => x q.first * x q.second) pairs
    rw [List.isEmpty_iff.1 none, Terms.value_nil] at zero
    rw [scalarAt?, Terms.value_canonical, ← zero, add_zero]
  next => rw [scalarAt?, Terms.value_canonical, Terms.value_canonical]

/-- Renamed variables have the values of the old ones. -/
theorem scalarAt_mapVariables [BEq K] [LawfulBEq K] {x y : Int → K} {φ : Int → Int}
    {f : Function K} (same : ∀ v ∈ f.support, y (φ v) = x v) :
    (f.mapVariables φ).scalarAt? y = f.scalarAt? x := by
  cases f with
  | var v => exact congrArg some (same v (List.mem_singleton_self v))
  | affine f =>
    have terms : Terms.value (fun v => y (φ v)) f.terms = Terms.value x f.terms :=
      Terms.value_congr fun t ht => same _ (List.mem_map_of_mem ht)
    rw [mapVariables, Affine.mapVariables, Affine.canonical, scalarAt?, Terms.value_canonical,
      Terms.value_map_key φ, terms]
    rfl
  | quadratic f =>
    have terms : Terms.value (fun v => y (φ v)) f.terms = Terms.value x f.terms :=
      Terms.value_congr fun t ht =>
        same _ (List.mem_append_right _ (List.mem_map_of_mem ht))
    have pairs : Terms.value (fun q : VariablePair =>
          y (VariablePair.of (φ q.first) (φ q.second)).first
            * y (VariablePair.of (φ q.first) (φ q.second)).second) f.pairs
        = Terms.value (fun q => x q.first * x q.second) f.pairs := by
      refine Terms.value_congr fun t ht => ?_
      have inside : ∀ v ∈ [t.1.first, t.1.second], y (φ v) = x v := fun v hv =>
        same v (List.mem_append_left _ (List.mem_flatMap.2 ⟨t, ht, hv⟩))
      rw [← inside t.1.first (by simp), ← inside t.1.second (by simp)]
      -- the pair is kept in order, which a product does not show
      unfold VariablePair.of
      split
      · rfl
      · exact mul_comm _ _
    rw [mapVariables, scalarAt_canonicalQuadratic, Terms.value_map_key φ, terms,
      Terms.value_map_key (fun q : VariablePair => VariablePair.of (φ q.first) (φ q.second)), pairs]
    rfl
  | _ => rfl

end Function

namespace Algebraic.Problem

open CheckedArithmetic (value)

variable [CommRing K] [CheckedArithmetic N K V] {ε : Type}
variable {p : Problem N V} {i : Node.Reading ε V} {x : Int → K}

omit [CommRing K] in
theorem nodes_eq_mapM (p : Problem N V) (fs : List (Function K)) : p.nodes fs = fs.mapM p.node := by
  induction fs with
  | nil => rfl
  | cons f fs ih => rw [nodes, List.mapM_cons, ih]

/-- Whether a reading gives the variables of the problem the given numbers. -/
def IsRead (p : Problem N V) (i : Node.Reading ε V) (x : Int → K) : Prop :=
  ∀ v : Int, 1 ≤ v → v ≤ p.vars.length → (Node.var v.toNat : Node V).valueIn? N i = some (x v)

omit [CommRing K] in
theorem variableNode_eq_ok {v : Int} {n : Node V} (h : p.variableNode v = .ok n) :
    1 ≤ v ∧ v ≤ p.vars.length ∧ n = .var v.toNat := by
  unfold variableNode at h
  split at h
  next inside => exact ⟨inside.1, inside.2, (Except.ok.inj h).symm⟩
  next => cases h

theorem valueIn_variableNode (reads : p.IsRead i x) {v : Int} {n : Node V}
    (h : p.variableNode v = .ok n) : n.valueIn? N i = some (x v) := by
  obtain ⟨low, high, rfl⟩ := variableNode_eq_ok h
  exact reads v low high

variable [ExactArithmetic N K V]

theorem isRead_point (p : Problem N V) (a : Nat → K) :
    p.IsRead (.point N a) (fun v => a v.toNat) :=
  fun v _ _ => Node.valueIn_var_point a v.toNat

theorem valueIn_fromCoefficient (c : K) :
    (fromCoefficient (N := N) c : Node V).valueIn? N i = some c := by
  rw [fromCoefficient, Node.valueIn_constant, CheckedArithmetic.value_ofCoefficient]

theorem valueIn_termsNode (reads : p.IsRead i x) {terms : List (Int × K)} {n : Node V}
    (h : p.termsNode terms = .ok n) : n.valueIn? N i = some (Terms.value x terms) := by
  obtain ⟨nodes, built, added⟩ := bind_eq_ok.1 h
  refine Node.valueIn_addAll ?_ (mapError_eq_ok.1 added)
  rw [List.forall₂_map_right_iff]
  refine (mapM_eq_ok.1 built).flip.imp fun m t term => ?_
  obtain ⟨y, hy, scaled⟩ := bind_eq_ok.1 term
  exact Node.valueIn_mul (valueIn_fromCoefficient t.2) (valueIn_variableNode reads hy)
    (mapError_eq_ok.1 scaled)

theorem valueIn_pairsNode (reads : p.IsRead i x) {pairs : List (VariablePair × K)} {n : Node V}
    (h : p.pairsNode pairs = .ok n) :
    n.valueIn? N i = some (Terms.value (fun q => x q.first * x q.second) pairs) := by
  obtain ⟨nodes, built, added⟩ := bind_eq_ok.1 h
  refine Node.valueIn_addAll ?_ (mapError_eq_ok.1 added)
  rw [List.forall₂_map_right_iff]
  refine (mapM_eq_ok.1 built).flip.imp fun m t term => ?_
  obtain ⟨y, hy, term⟩ := bind_eq_ok.1 term
  obtain ⟨first, scaled, term⟩ := bind_eq_ok.1 term
  obtain ⟨z, hz, multiplied⟩ := bind_eq_ok.1 term
  have scaled := Node.valueIn_mul (valueIn_fromCoefficient t.2) (valueIn_variableNode reads hy)
    (mapError_eq_ok.1 scaled)
  rw [← mul_assoc]
  exact Node.valueIn_mul scaled (valueIn_variableNode reads hz) (mapError_eq_ok.1 multiplied)

/-- Under a reading, the node of a scalar function has its value. -/
theorem valueIn_node (reads : p.IsRead i x) {f : Function K} {n : Node V} {c : K}
    (h : f.scalarAt? x = some c) (built : p.node f = .ok n) : n.valueIn? N i = some c := by
  cases f with
  | var v =>
    obtain rfl := Option.some.inj h
    exact valueIn_variableNode reads built
  | affine f =>
    obtain rfl := Option.some.inj h
    obtain ⟨terms, hterms, added⟩ := bind_eq_ok.1 built
    rw [add_comm]
    exact Node.valueIn_add (valueIn_termsNode reads hterms) (valueIn_fromCoefficient f.constant)
      (mapError_eq_ok.1 added)
  | quadratic f =>
    obtain rfl := Option.some.inj h
    obtain ⟨pairs, hpairs, built⟩ := bind_eq_ok.1 built
    obtain ⟨terms, hterms, built⟩ := bind_eq_ok.1 built
    obtain ⟨sum, hsum, added⟩ := bind_eq_ok.1 built
    have summed := Node.valueIn_add (valueIn_pairsNode reads hpairs)
      (valueIn_termsNode reads hterms) (mapError_eq_ok.1 hsum)
    rw [add_assoc, add_comm, add_comm (Terms.value _ f.terms)]
    exact Node.valueIn_add summed (valueIn_fromCoefficient f.constant) (mapError_eq_ok.1 added)
  | _ => cases h

/-- The node of a scalar function has its value. -/
theorem valueAt_node {a : Nat → K} {f : Function K} {n : Node V} {c : K}
    (h : f.scalarAt? (fun v => a v.toNat) = some c) (built : p.node f = .ok n) :
    n.valueAt? N a = some c :=
  valueIn_node (p.isRead_point a) h built

end Algebraic.Problem

end MathProg
