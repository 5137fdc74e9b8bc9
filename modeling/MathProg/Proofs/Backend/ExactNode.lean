import MathProg.Proofs.Function.PointValue

/-!
# Nodes of operators

In exact arithmetic an algebraic model has a node for every tree that is defined at a point, and the
node has the number of the tree as its value there. What is computed or left out while nodes are
built does not show, since a part that is computed at once is defined wherever the whole is.
-/

namespace MathProg

open Fallible

variable {N K V : Type}

/-! ## Built nodes -/

namespace Node

open CheckedArithmetic (value)

section

variable [CommRing K] [CheckedArithmetic N K V] {ε ε' : Type} {i : Reading ε V} {n : Node V}
variable {x y : K}

/-- Whether a node is built that has a number as its value under a reading. -/
def Builds (N : Type) [CheckedArithmetic N K V] (i : Reading ε V) (result : Except ε' (Node V))
    (x : K) : Prop :=
  ∃ n, result = .ok n ∧ n.valueIn? N i = some x

theorem Builds.mapError {ε'' : Type} {f : ε' → ε''} {result : Except ε' (Node V)}
    (h : Builds N i result x) : Builds N i (result.mapError f) x := by
  obtain ⟨n, rfl, value⟩ := h
  exact ⟨n, rfl, value⟩

/-- What comes next builds a node from this one. -/
theorem Builds.bind {result : Except ε' (Node V)} {next : Node V → Except ε' (Node V)}
    (h : Builds N i result x) (step : ∀ n, n.valueIn? N i = some x → Builds N i (next n) y) :
    Builds N i (result >>= next) y := by
  obtain ⟨n, rfl, value⟩ := h
  exact step n value

/-- Building one node after the other follows the numbers. -/
theorem builds_foldlM {step : Node V → Node V → Except ε' (Node V)} {op : K → K → K}
    (each : ∀ {m n x y}, m.valueIn? N i = some x → n.valueIn? N i = some y →
      Builds N i (step m n) (op x y)) {args : List (Node V)} {xs : List K}
    (values : List.Forall₂ (fun n x => n.valueIn? N i = some x) args xs) {start : Node V} {x : K}
    (h : start.valueIn? N i = some x) : Builds N i (args.foldlM step start) (xs.foldl op x) := by
  induction values generalizing start x with
  | nil => exact ⟨start, rfl, h⟩
  | cons first _ ih =>
    rw [List.foldlM_cons, List.foldl_cons]
    exact (each h first).bind fun _ next => ih next

/-- Nodes that are built one by one have their numbers. -/
theorem builds_mapM {α : Type} {step : α → Except ε' (Node V)} {g : α → K} {terms : List α}
    (each : ∀ t ∈ terms, Builds N i (step t) (g t)) : ∃ ns, terms.mapM step = .ok ns ∧
      List.Forall₂ (fun n x => n.valueIn? N i = some x) ns (terms.map g) := by
  induction terms with
  | nil => exact ⟨[], rfl, .nil⟩
  | cons t terms ih =>
    obtain ⟨⟨n, built, value⟩, rest⟩ := List.forall_mem_cons.1 each
    obtain ⟨ns, all, values⟩ := ih rest
    exact ⟨n :: ns, by rw [List.mapM_cons, built, all]; rfl, .cons value values⟩

theorem ne_undefined_of_valueIn (h : n.valueIn? N i = some x) : n ≠ undefined := by
  rintro rfl
  rw [valueIn?, evaluate] at h
  cases h

theorem valueIn_constant_iff {c : V} : (constant c).valueIn? N i = some x ↔ value N c = x := by
  rw [valueIn_constant, Option.some.injEq]

end

end Node

theorem Algebraic.Problem.builds_variableNode [CommRing K] [CheckedArithmetic N K V] {ε : Type}
    {p : Problem N V} {i : Node.Reading ε V} {x : Int → K} (reads : p.IsRead i x) {v : Int}
    (there : 1 ≤ v ∧ v ≤ p.vars.length) : Node.Builds N i (p.variableNode v) (x v) :=
  ⟨_, if_pos there, reads v there.1 there.2⟩

/-! ## Exact functions -/

/-- Exact arithmetic without complex numbers. Quotients by what is not zero, and powers and
functions where they are defined, have the values of the table of operators. -/
class ExactFunctions (N K : Type) (V : outParam Type) [Field K] [ElementaryFunctions K]
    [FunctionDomain K] [Numeral N K] [CheckedArithmetic N K V] : Prop
    extends ExactArithmetic N K V where
  isReal : ∀ x : V, Node.isRealNumber N K x = true
  toCoefficient_ofNumber : ∀ (n : N) (c : K), Numeral.toCoefficient n = .ok c →
    CheckedArithmetic.toCoefficient N (CheckedArithmetic.ofNumber K n : V) = .ok c
  toCoefficient_neg : ∀ (x : V) (c : K), CheckedArithmetic.toCoefficient N x = .ok c →
    CheckedArithmetic.toCoefficient N (CheckedArithmetic.neg N K x) = .ok (-c)
  apply_div : ∀ (x y : V) (c d : K), CheckedArithmetic.toCoefficient N x = .ok c →
    CheckedArithmetic.toCoefficient N y = .ok d → d ≠ 0 →
    ∃ z : V, CheckedArithmetic.apply N K .div x y = .ok z ∧
      CheckedArithmetic.toCoefficient N z = .ok (c / d)
  apply_pow : ∀ (x y : V) (c d : K), CheckedArithmetic.toCoefficient N x = .ok c →
    CheckedArithmetic.toCoefficient N y = .ok d → FunctionDomain.power c d →
    ∃ z : V, CheckedArithmetic.apply N K .pow x y = .ok z ∧
      CheckedArithmetic.toCoefficient N z = .ok (ElementaryFunctions.power c d)
  power_one : ∀ c : K, FunctionDomain.power c 1 → ElementaryFunctions.power c 1 = c
  call : ∀ (op : Operator) (x : V) (c d : K), op.arity? = some 1 →
    FunctionDomain.Allows op [c] → CheckedArithmetic.toCoefficient N x = .ok c →
    op.applyNumbers [c] = .ok d →
    ∃ z : V, CheckedArithmetic.call N K op x = .ok z ∧
      CheckedArithmetic.toCoefficient N z = .ok d

section

variable [Field K] [ElementaryFunctions K] [FunctionDomain K] [Numeral N K]
variable [CheckedArithmetic N K V] [ExactFunctions N K V]

namespace CheckedArithmetic

theorem value_ofNumber {n : N} {c : K} (h : Numeral.toCoefficient n = .ok c) :
    value N (ofNumber K n : V) = c :=
  value_of_toCoefficient (ExactFunctions.toCoefficient_ofNumber n c h)

theorem value_neg (x : V) : (value N (neg N K x) : K) = -value N x :=
  value_of_toCoefficient (ExactFunctions.toCoefficient_neg x _ (toCoefficient_eq x))

theorem exists_div (x : V) {y : V} (nonzero : (value N y : K) ≠ 0) :
    ∃ z : V, apply N K .div x y = .ok z ∧ (value N z : K) = value N x / value N y := by
  obtain ⟨z, divided, hz⟩ := ExactFunctions.apply_div x y _ _
    (toCoefficient_eq (N := N) (K := K) x) (toCoefficient_eq y) nonzero
  exact ⟨z, divided, value_of_toCoefficient hz⟩

theorem exists_pow {x y : V} (domain : FunctionDomain.power (value N x : K) (value N y)) :
    ∃ z : V, apply N K .pow x y = .ok z ∧
      (value N z : K) = ElementaryFunctions.power (value N x) (value N y) := by
  obtain ⟨z, raised, hz⟩ := ExactFunctions.apply_pow x y _ _
    (toCoefficient_eq (N := N) (K := K) x) (toCoefficient_eq y) domain
  exact ⟨z, raised, value_of_toCoefficient hz⟩

theorem exists_call {op : Operator} (unary : op.arity? = some 1) {x : V} {d : K}
    (allowed : FunctionDomain.Allows op [(value N x : K)])
    (applied : op.applyNumbers [(value N x : K)] = .ok d) :
    ∃ z : V, call N K op x = .ok z ∧ value N z = d := by
  obtain ⟨z, called, hz⟩ := ExactFunctions.call op x _ _ unary allowed (toCoefficient_eq x) applied
  exact ⟨z, called, value_of_toCoefficient hz⟩

end CheckedArithmetic

/-! ## Building nodes -/

namespace Node

open CheckedArithmetic (value value_of_isNat)

variable {ε ε' : Type} {i : Reading ε V} {m n : Node V} {x y : K}

theorem checkReal_eq (c : V) : checkReal N K c = .ok () :=
  if_pos (ExactFunctions.isReal c)

theorem builds_add (hm : m.valueIn? N i = some x) (hn : n.valueIn? N i = some y) :
    Builds N i (add N K m n) (x + y) := by
  have built : ∃ s, add N K m n = .ok s := by
    unfold add
    split
    next => exact absurd rfl (ne_undefined_of_valueIn hm)
    next => exact absurd rfl (ne_undefined_of_valueIn hn)
    next c d =>
      obtain ⟨z, added, -⟩ := CheckedArithmetic.exists_add (N := N) (K := K) c d
      exact ⟨_, bind_eq_ok.2 ⟨z, added, rfl⟩⟩
    next c _ _ => exact ⟨_, bind_eq_ok.2 ⟨_, checkReal_eq c, rfl⟩⟩
    next d _ _ => exact ⟨_, bind_eq_ok.2 ⟨_, checkReal_eq d, rfl⟩⟩
    next => exact ⟨_, rfl⟩
  obtain ⟨s, added⟩ := built
  exact ⟨s, added, valueIn_add hm hn added⟩

theorem builds_mul (hm : m.valueIn? N i = some x) (hn : n.valueIn? N i = some y) :
    Builds N i (mul N K m n) (x * y) := by
  have scaled (c : V) (n otherwise : Node V) : ∃ s, scale N K c n otherwise = .ok s := by
    unfold scale
    rw [checkReal_eq]
    simp only [bind, Except.bind]
    split
    next => exact ⟨_, rfl⟩
    next =>
      split
      next => exact ⟨_, rfl⟩
      next d v =>
        obtain ⟨z, multiplied, -⟩ := CheckedArithmetic.exists_mul (N := N) (K := K) c d
        rw [multiplied]
        exact ⟨_, rfl⟩
      next => exact ⟨_, rfl⟩
  have built : ∃ s, mul N K m n = .ok s := by
    unfold mul
    split
    next => exact absurd rfl (ne_undefined_of_valueIn hm)
    next => exact absurd rfl (ne_undefined_of_valueIn hn)
    next c d =>
      obtain ⟨z, multiplied, -⟩ := CheckedArithmetic.exists_mul (N := N) (K := K) c d
      exact ⟨_, bind_eq_ok.2 ⟨z, multiplied, rfl⟩⟩
    next => exact scaled _ _ _
    next => exact scaled _ _ _
    next => exact ⟨_, rfl⟩
  obtain ⟨s, multiplied⟩ := built
  exact ⟨s, multiplied, valueIn_mul hm hn multiplied⟩

theorem builds_neg (hn : n.valueIn? N i = some x) : Builds N i (neg N K n) (-x) := by
  unfold neg
  split
  next => exact absurd rfl (ne_undefined_of_valueIn hn)
  next c =>
    obtain rfl := valueIn_constant_iff.1 hn
    exact ⟨_, rfl, valueIn_constant_iff.2 (CheckedArithmetic.value_neg c)⟩
  next v =>
    refine ⟨_, rfl, ?_⟩
    rw [valueIn_monomial, hn, CheckedArithmetic.value_neg, CheckedArithmetic.value_ofNat,
      Nat.cast_one, Option.map_some, neg_one_mul]
  next c v =>
    rw [valueIn_monomial] at hn
    obtain ⟨u, hu, rfl⟩ := Option.map_eq_some_iff.1 hn
    refine ⟨_, rfl, ?_⟩
    rw [valueIn_monomial, hu, CheckedArithmetic.value_neg, Option.map_some, neg_mul]
  next =>
    obtain ⟨z, evaluated, rfl⟩ := valueIn_eq_some.1 hn
    refine ⟨_, rfl, valueIn_eq_some.2 ⟨CheckedArithmetic.neg N K z, ?_,
      CheckedArithmetic.value_neg z⟩⟩
    rw [evaluate, evaluated]
    rfl

theorem builds_sub (hm : m.valueIn? N i = some x) (hn : n.valueIn? N i = some y) :
    Builds N i (sub N K m n) (x - y) := by
  rw [sub_eq_add_neg]
  exact (builds_neg hn).bind fun _ negated => builds_add hm negated

theorem valueIn_quotient (hm : m.valueIn? N i = some x) (hn : n.valueIn? N i = some y)
    (nonzero : y ≠ 0) : (quotient m n).valueIn? N i = some (x / y) := by
  obtain ⟨u, hu, rfl⟩ := valueIn_eq_some.1 hm
  obtain ⟨v, hv, rfl⟩ := valueIn_eq_some.1 hn
  obtain ⟨z, divided, hz⟩ := CheckedArithmetic.exists_div u nonzero
  refine valueIn_eq_some.2 ⟨z, ?_, hz⟩
  rw [evaluate, hu, hv]
  simp only [bind, Except.bind, divided]
  rfl

theorem builds_div (hm : m.valueIn? N i = some x) (hn : n.valueIn? N i = some y)
    (nonzero : y ≠ 0) : Builds N i (div N K m n) (x / y) := by
  -- what is built where nothing can be simplified
  have quotient := valueIn_quotient hm hn nonzero
  unfold div
  split
  next => exact absurd rfl (ne_undefined_of_valueIn hm)
  next => exact absurd rfl (ne_undefined_of_valueIn hn)
  next c d =>
    obtain rfl := valueIn_constant_iff.1 hm
    obtain rfl := valueIn_constant_iff.1 hn
    obtain ⟨z, divided, hz⟩ := CheckedArithmetic.exists_div c nonzero
    exact ⟨_, bind_eq_ok.2 ⟨z, divided, rfl⟩, valueIn_constant_iff.2 hz⟩
  next c _ _ => exact ⟨_, bind_eq_ok.2 ⟨_, checkReal_eq c, rfl⟩, quotient⟩
  next d _ _ =>
    obtain rfl := valueIn_constant_iff.1 hn
    rw [checkReal_eq]
    simp only [bind, Except.bind]
    split
    next zero => exact absurd ((value_of_isNat zero).trans Nat.cast_zero) nonzero
    next =>
      split
      next one =>
        refine ⟨m, rfl, ?_⟩
        rw [hm, value_of_isNat one, Nat.cast_one, div_one]
      next =>
        split
        next v _ _ =>
          obtain ⟨z, divided, hz⟩ := CheckedArithmetic.exists_div
            (CheckedArithmetic.ofNat N K 1) nonzero
          refine ⟨monomial z v, by rw [divided]; rfl, ?_⟩
          rw [valueIn_monomial, hm, hz, CheckedArithmetic.value_ofNat, Nat.cast_one,
            Option.map_some, one_div_mul_eq_div]
        next c v _ _ =>
          obtain ⟨z, divided, hz⟩ := CheckedArithmetic.exists_div c nonzero
          rw [valueIn_monomial] at hm
          obtain ⟨u, hu, rfl⟩ := Option.map_eq_some_iff.1 hm
          refine ⟨monomial z v, by rw [divided]; rfl, ?_⟩
          rw [valueIn_monomial, hu, hz, Option.map_some, div_mul_eq_mul_div]
        next => exact ⟨_, rfl, quotient⟩
  next => exact ⟨_, rfl, quotient⟩

theorem valueIn_power (hm : m.valueIn? N i = some x) (hn : n.valueIn? N i = some y)
    (domain : FunctionDomain.power x y) :
    (power m n).valueIn? N i = some (ElementaryFunctions.power x y) := by
  obtain ⟨u, hu, rfl⟩ := valueIn_eq_some.1 hm
  obtain ⟨v, hv, rfl⟩ := valueIn_eq_some.1 hn
  obtain ⟨z, raised, hz⟩ := CheckedArithmetic.exists_pow domain
  refine valueIn_eq_some.2 ⟨z, ?_, hz⟩
  rw [evaluate, hu, hv]
  simp only [bind, Except.bind, raised]
  rfl

theorem builds_pow (hm : m.valueIn? N i = some x) (hn : n.valueIn? N i = some y)
    (domain : FunctionDomain.power x y) :
    Builds N i (pow N K m n) (ElementaryFunctions.power x y) := by
  have power := valueIn_power hm hn domain
  unfold pow
  split
  next => exact absurd rfl (ne_undefined_of_valueIn hm)
  next => exact absurd rfl (ne_undefined_of_valueIn hn)
  next c d =>
    obtain rfl := valueIn_constant_iff.1 hm
    obtain rfl := valueIn_constant_iff.1 hn
    obtain ⟨z, raised, hz⟩ := CheckedArithmetic.exists_pow domain
    exact ⟨_, bind_eq_ok.2 ⟨z, raised, rfl⟩, valueIn_constant_iff.2 hz⟩
  next c _ _ => exact ⟨_, bind_eq_ok.2 ⟨_, checkReal_eq c, rfl⟩, power⟩
  next d _ _ =>
    refine ⟨_, bind_eq_ok.2 ⟨_, checkReal_eq d, rfl⟩, ?_⟩
    split
    next one =>
      -- a first power is left out
      obtain rfl := valueIn_constant_iff.1 hn
      rw [value_of_isNat one, Nat.cast_one] at domain ⊢
      rw [hm, ExactFunctions.power_one (N := N) x domain]
    next => exact power
  next => exact ⟨_, rfl, power⟩

theorem builds_apply {op : Operator} (unary : op.arity? = some 1) (hn : n.valueIn? N i = some x)
    (allowed : FunctionDomain.Allows op [x]) (applied : op.applyNumbers [x] = .ok y) :
    Builds N i (apply N K op n) y := by
  obtain ⟨u, hu, rfl⟩ := valueIn_eq_some.1 hn
  obtain ⟨z, called, rfl⟩ := CheckedArithmetic.exists_call unary allowed applied
  unfold apply
  split
  next => exact absurd rfl (ne_undefined_of_valueIn hn)
  next c =>
    rw [evaluate] at hu
    obtain rfl := Except.ok.inj hu
    rw [ExactFunctions.isReal, Bool.or_true, if_pos rfl, called]
    exact ⟨constant z, rfl, valueIn_constant z⟩
  next =>
    refine ⟨_, rfl, valueIn_eq_some.2 ⟨z, ?_, rfl⟩⟩
    rw [evaluate, hu]
    simp only [bind, Except.bind, called]
    rfl

theorem valueIn_number (k : Nat) : (number N K k : Node V).valueIn? N i = some (k : K) := by
  rw [number, valueIn_constant, CheckedArithmetic.value_ofNat]

theorem builds_addAll {args : List (Node V)} {xs : List K}
    (values : List.Forall₂ (fun n x => n.valueIn? N i = some x) args xs) :
    Builds N i (addAll N K args) xs.sum := by
  rw [List.sum_eq_foldl, ← Nat.cast_zero]
  exact builds_foldlM builds_add values (valueIn_number 0)

theorem builds_mulAll {args : List (Node V)} {xs : List K}
    (values : List.Forall₂ (fun n x => n.valueIn? N i = some x) args xs) :
    Builds N i (mulAll N K args) xs.prod := by
  rw [List.prod_eq_foldl, ← Nat.cast_one]
  exact builds_foldlM builds_mul values (valueIn_number 1)

end Node

/-! ## Nodes of functions -/

namespace Algebraic

open Node (Builds)

variable {ε : Type} {i : Node.Reading ε V} {x : Int → K}

theorem builds_operatorNode {op : Operator} {args : List (Node V)} {xs : List K} {c : K}
    (values : List.Forall₂ (fun n x => n.valueIn? N i = some x) args xs)
    (takes : op.takes xs.length = true) (allowed : FunctionDomain.Allows op xs)
    (applied : op.applyNumbers xs = .ok c) :
    Builds N i (operatorNode (N := N) (K := K) op args) c := by
  cases op with
  | sum =>
    obtain rfl := Except.ok.inj ((Operator.applyNumbers_sum xs).symm.trans applied)
    exact (Node.builds_addAll values).mapError
  | product =>
    obtain rfl := Except.ok.inj ((Operator.applyNumbers_product xs).symm.trans applied)
    exact (Node.builds_mulAll values).mapError
  | minus =>
    rcases Bool.or_eq_true_iff.1 takes with one | two
    · obtain ⟨x, rfl⟩ := List.length_eq_one_iff.1 (beq_iff_eq.1 one)
      obtain rfl := Except.ok.inj applied
      match args, values with
      | [_], .cons hn .nil => exact (Node.builds_neg hn).mapError
    · obtain ⟨x, y, rfl⟩ := List.length_eq_two.1 (beq_iff_eq.1 two)
      obtain rfl := Except.ok.inj applied
      match args, values with
      | [_, _], .cons hm (.cons hn .nil) => exact (Node.builds_sub hm hn).mapError
  | quotient =>
    obtain ⟨x, y, rfl⟩ := List.length_eq_two.1 (Option.some.inj (beq_iff_eq.1 takes)).symm
    obtain rfl := Except.ok.inj applied
    match args, values with
    | [_, _], .cons hm (.cons hn .nil) => exact (Node.builds_div hm hn allowed).mapError
  | power =>
    obtain ⟨x, y, rfl⟩ := List.length_eq_two.1 (Option.some.inj (beq_iff_eq.1 takes)).symm
    obtain rfl := Except.ok.inj applied
    match args, values with
    | [_, _], .cons hm (.cons hn .nil) => exact (Node.builds_pow hm hn allowed).mapError
  | sin | cos | exp | log | sqrt | abs =>
    obtain ⟨x, rfl⟩ := List.length_eq_one_iff.1 (Option.some.inj (beq_iff_eq.1 takes)).symm
    match args, values with
    | [_], .cons hn .nil => exact (Node.builds_apply rfl hn allowed applied).mapError

namespace Problem

variable {p : Problem N V}

theorem builds_termsNode (reads : p.IsRead i x) {terms : List (Int × K)}
    (there : ∀ v ∈ terms.map Prod.fst, 1 ≤ v ∧ v ≤ p.vars.length) :
    Builds N i (p.termsNode terms) (Terms.value x terms) := by
  have product (t : Int × K) (mem : t ∈ terms) :
      Builds N i (do
        let n ← p.variableNode t.1
        (Node.mul N K (fromCoefficient (N := N) t.2) n).mapError ofArithmetic) (t.2 * x t.1) :=
    (builds_variableNode reads (there t.1 (List.mem_map_of_mem mem))).bind fun n hn =>
      (Node.builds_mul (valueIn_fromCoefficient t.2) hn).mapError
  obtain ⟨nodes, built, values⟩ := Node.builds_mapM product
  rw [termsNode, built]
  exact (Node.builds_addAll values).mapError

theorem builds_pairsNode (reads : p.IsRead i x) {pairs : List (VariablePair × K)}
    (there : ∀ q ∈ pairs.map Prod.fst, ∀ v ∈ [q.first, q.second], 1 ≤ v ∧ v ≤ p.vars.length) :
    Builds N i (p.pairsNode pairs) (Terms.value (fun q => x q.first * x q.second) pairs) := by
  have product (t : VariablePair × K) (mem : t ∈ pairs) :
      Builds N i (do
        let m ← p.variableNode t.1.first
        let scaled ← (Node.mul N K (fromCoefficient (N := N) t.2) m).mapError ofArithmetic
        let n ← p.variableNode t.1.second
        (Node.mul N K scaled n).mapError ofArithmetic) (t.2 * (x t.1.first * x t.1.second)) := by
    have inside := there t.1 (List.mem_map_of_mem mem)
    rw [← mul_assoc]
    exact (builds_variableNode reads (inside _ (by simp))).bind fun m hm =>
      (Node.builds_mul (valueIn_fromCoefficient t.2) hm).mapError.bind fun scaled hs =>
        (builds_variableNode reads (inside _ (by simp))).bind fun n hn =>
          (Node.builds_mul hs hn).mapError
  obtain ⟨nodes, built, values⟩ := Node.builds_mapM product
  rw [pairsNode, built]
  exact (Node.builds_addAll values).mapError

theorem exists_node_of_scalar {f : Function K} (scalar : f.family ∈ scalarFamilies)
    (there : ∀ v ∈ f.support, 1 ≤ v ∧ v ≤ p.vars.length) (reads : p.IsRead i x) :
    ∃ n, p.node f = .ok n := by
  cases f with
  | var v =>
    obtain ⟨n, built, -⟩ := builds_variableNode reads (there v (List.mem_singleton_self v))
    exact ⟨n, built⟩
  | affine f =>
    obtain ⟨n, built, -⟩ : Builds N i (p.node (.affine f)) _ :=
      (builds_termsNode reads there).bind fun n hn =>
        (Node.builds_add hn (valueIn_fromCoefficient f.constant)).mapError
    exact ⟨n, built⟩
  | quadratic f =>
    have pairs : ∀ q ∈ f.pairs.map Prod.fst, ∀ v ∈ [q.first, q.second],
        1 ≤ v ∧ v ≤ p.vars.length := by
      intro q mem v hv
      obtain ⟨t, inside, rfl⟩ := List.mem_map.1 mem
      exact there v (List.mem_append_left _ (List.mem_flatMap.2 ⟨t, inside, hv⟩))
    have terms : ∀ v ∈ f.terms.map Prod.fst, 1 ≤ v ∧ v ≤ p.vars.length := fun v hv =>
      there v (List.mem_append_right _ hv)
    obtain ⟨n, built, -⟩ : Builds N i (p.node (.quadratic f)) _ :=
      (builds_pairsNode reads pairs).bind fun m hm =>
        (builds_termsNode reads terms).bind fun n hn =>
          (Node.builds_add hm hn).mapError.bind fun s hs =>
            (Node.builds_add hs (valueIn_fromCoefficient f.constant)).mapError
    exact ⟨n, built⟩
  | _ => simp [Function.family, scalarFamilies] at scalar

/-- In exact arithmetic, a tree that is defined at a point has a node, which has its number there.
-/
theorem builds_node {f : Function K} (tree : f.IsTree) (defined : f.IsDefinedAt x)
    (there : ∀ v ∈ f.support, 1 ≤ v ∧ v ≤ p.vars.length) (reads : p.IsRead i x) :
    Builds N i (p.node f) (f.numberAt x) := by
  induction tree with
  | number c => exact ⟨_, rfl, valueIn_fromCoefficient c⟩
  | @scalar f family =>
    obtain ⟨n, built⟩ := exists_node_of_scalar family there reads
    obtain ⟨c, value⟩ := Function.exists_scalarAt family x
    have number : f.numberAt x = c := Function.numberAt_of_evaluate
      (Function.evaluate_scalar (Interpretation.isAt_ofPoint x _).value value)
    exact ⟨n, built, number ▸ valueIn_node reads value built⟩
  | @nonlinear head op args known takes all ih =>
    cases defined with
    | leaf other => exact absurd rfl other
    | nonlinear known' allowed inside =>
      obtain rfl := Option.some.inj (known.symm.trans known')
      obtain ⟨nodes, built, values⟩ := Node.builds_mapM (N := N) (i := i) fun a mem =>
        ih a mem (inside a mem) fun v hv => there v (Function.mem_supportAll mem hv)
      have applied := Function.IsTree.applyNumbers_eq (x := x) known takes all
      rw [node, known]
      change Builds N i (p.nodes args >>= operatorNode (N := N) (K := K) op) _
      rw [nodes_eq_mapM, built]
      exact builds_operatorNode values (by rwa [List.length_map]) allowed applied

end Problem

end Algebraic

end

end MathProg
