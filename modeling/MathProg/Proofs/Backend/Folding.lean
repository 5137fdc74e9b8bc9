import MathProg.Backend.Algebraic
import MathProg.Proofs.Fallible
import MathProg.Proofs.Function.Totality
import MathProg.Proofs.Number.ExactValue

/-!
# Numbers in nodes

Nodes are simplified while they are built, so that one without variables is a number, and building
it fails where its arithmetic fails. With variables in it nothing is computed but coefficients: an
operation completes unless a number is not real, or divides and is zero.
-/

namespace MathProg

open Fallible

/-! ## Values -/

namespace Quantity

def isReal (q : Quantity) : Bool :=
  Node.isRealNumber Number Float q

/-- Whether the value is held as an integer. -/
def isInteger : Quantity → Bool
  | number (.integer _) => true
  | _ => false

/-- A number that goes together with every float: a float, or what an empty sum, an empty product
or the sign of a variable starts with. -/
inductive IsCoefficient : Quantity → Prop where
  | real (x : Float) : IsCoefficient (number (.real x))
  | sign (k : Int) (small : k.natAbs ≤ 1) : IsCoefficient (number (.integer k))

variable {op : ArithmeticOp} {x y z : Quantity}

theorem apply_complex (h : Quantity.apply op x y = .ok z)
    (mixed : x.isReal = false ∨ y.isReal = false) : ∃ w, z = complex w := by
  have result {r : Except ComplexError Complex} (h : ofComplexResult r = .ok z) :
      ∃ w, z = complex w := by
    unfold ofComplexResult at h
    split at h
    · exact ⟨_, (Except.ok.inj h).symm⟩
    · cases h
    · cases h
  have both {p q : Quantity} (f : Complex → Complex → Except ComplexError Complex)
      (h : (do ofComplexResult (f (← p.toComplex) (← q.toComplex))) = .ok z) :
      ∃ w, z = complex w := by
    obtain ⟨_, -, h⟩ := bind_eq_ok.1 h
    obtain ⟨_, -, h⟩ := bind_eq_ok.1 h
    exact result h
  have total {p q : Quantity} (f : Complex → Complex → Complex)
      (h : (do return complex (f (← p.toComplex) (← q.toComplex))) = .ok z) :
      ∃ w, z = complex w := by
    obtain ⟨_, -, h⟩ := bind_eq_ok.1 h
    obtain ⟨_, -, h⟩ := bind_eq_ok.1 h
    exact ⟨_, (pure_eq_ok.1 h).symm⟩
  unfold Quantity.apply at h
  split at h
  · rcases mixed with mixed | mixed <;> cases mixed
  · cases op with
    | add => exact total (· + ·) h
    | sub => exact total (· - ·) h
    | mul => exact total (· * ·) h
    | div => exact both Complex.div h
    | pow => exact both Complex.pow h
    | _ => cases h

/-- Only real numbers make a real number. -/
theorem isReal_of_apply (h : Quantity.apply op x y = .ok z) (real : z.isReal = true) :
    x.isReal = true ∧ y.isReal = true := by
  by_contra mixed
  rw [not_and_or, Bool.not_eq_true, Bool.not_eq_true] at mixed
  obtain ⟨w, rfl⟩ := apply_complex h mixed
  cases real

theorem isInteger_pow {x y : Float} (h : FloatArithmetic.pow x y = .ok z) :
    z.isInteger = false := by
  unfold FloatArithmetic.pow at h
  simp only at h
  repeat' split at h
  all_goals first
    | exact (Except.ok.inj h) ▸ rfl
    | cases h

theorem isInteger_applyFloat {x y : Float} (h : Number.applyFloat op x y = .ok z) :
    z.isInteger = false := by
  have guarded {c : Prop} [Decidable c] {r : Float}
      (h : (if c then .error ArithmeticError.divisionByZero else .ok (number (.real r))) =
        Except.ok z) : z.isInteger = false := by
    split at h <;> cases h
    rfl
  cases op with
  | add | sub | mul => cases h; rfl
  | div | floorDiv | mod => exact guarded h
  | pow => exact isInteger_pow h

/-- Only integers make an integer. -/
theorem isInteger_of_apply (h : Quantity.apply op x y = .ok z) (integer : z.isInteger = true) :
    x.isInteger = true ∧ y.isInteger = true := by
  have floats {a b : Number} (h : (do
      let x ← a.operand
      let y ← b.operand
      Number.applyFloat op x y) = .ok z) : False := by
    obtain ⟨_, -, h⟩ := bind_eq_ok.1 h
    obtain ⟨_, -, h⟩ := bind_eq_ok.1 h
    exact Bool.false_ne_true ((isInteger_applyFloat h).symm.trans integer)
  have reals {x y : Quantity} (h : Quantity.apply op x y = .ok z) :
      x.isReal = true ∧ y.isReal = true := by
    refine isReal_of_apply h ?_
    cases z with
    | number n => rfl
    | complex w => cases integer
  obtain ⟨left, right⟩ := reals h
  cases x with
  | complex w => cases left
  | number a =>
    cases y with
    | complex w => cases right
    | number b =>
      cases a with
      | integer m =>
        cases b with
        | integer n => exact ⟨rfl, rfl⟩
        | real y => exact (floats h).elim
      | real x => exact (floats h).elim

theorem isInteger_of_call {f : Operator} (h : Quantity.call f x = .ok z)
    (integer : z.isInteger = true) : x.isInteger = true := by
  have real {x : Except ArithmeticError Float}
      (h : (do return number (.real (← x))) = Except.ok z) : False := by
    obtain ⟨_, -, h⟩ := bind_eq_ok.1 h
    obtain rfl := pure_eq_ok.1 h
    cases integer
  unfold Quantity.call at h
  split at h
  · unfold Quantity.abs at h
    split at h
    · rfl
    · cases h
      cases integer
    · simp only at h
      split at h
      · cases h
      · cases h
        cases integer
  · rfl
  · obtain ⟨_, -, h⟩ := bind_eq_ok.1 h
    exact (real h).elim

/-! ### Coefficients -/

theorem IsCoefficient.exists_operand {n : Number} (h : (number n).IsCoefficient) :
    ∃ x, n.operand = .ok x := by
  cases h with
  | real x => exact ⟨x, rfl⟩
  | sign k small =>
    obtain rfl | rfl | rfl : k = -1 ∨ k = 0 ∨ k = 1 := by omega
    · exact ⟨_, by rfl⟩
    · exact ⟨_, by rfl⟩
    · exact ⟨_, by rfl⟩

theorem IsCoefficient.neg (h : x.IsCoefficient) : x.neg.IsCoefficient := by
  cases h with
  | real x => exact .real _
  | sign k small => exact .sign (-k) (by omega)

theorem IsCoefficient.isReal (h : x.IsCoefficient) : x.isReal = true := by
  cases h <;> rfl

/-- An operation on two coefficients that are not both integers is one on floats. -/
theorem IsCoefficient.exists_applyFloat (hx : x.IsCoefficient) (hy : y.IsCoefficient)
    (float : x.isInteger = false ∨ y.isInteger = false) (op : ArithmeticOp) :
    ∃ c d, Quantity.apply op x y = Number.applyFloat op c d ∧
      ∀ r, y = number (.real r) → d = r := by
  cases x with
  | complex w => cases hx
  | number m =>
    cases y with
    | complex w => cases hy
    | number n =>
      obtain ⟨c, left⟩ := hx.exists_operand
      obtain ⟨d, right⟩ := hy.exists_operand
      have floats : Quantity.apply op (number m) (number n) = (do
          let c ← m.operand
          let d ← n.operand
          Number.applyFloat op c d) := by
        cases m with
        | real x => rfl
        | integer k =>
          cases n with
          | real y => rfl
          | integer l => simp [isInteger] at float
      refine ⟨c, d, by rw [floats, left, right]; rfl, fun r same => ?_⟩
      cases same
      exact (Except.ok.inj right).symm

/-- Coefficients have a sum, unless they are integers. -/
theorem IsCoefficient.exists_add (hx : x.IsCoefficient) (hy : y.IsCoefficient)
    (float : x.isInteger = false ∨ y.isInteger = false) :
    ∃ z, Quantity.apply .add x y = .ok z ∧ z.IsCoefficient := by
  obtain ⟨c, d, floats, -⟩ := hx.exists_applyFloat hy float .add
  exact ⟨_, floats, .real (c + d)⟩

theorem IsCoefficient.exists_mul (hx : x.IsCoefficient) (hy : y.IsCoefficient) :
    ∃ z, Quantity.apply .mul x y = .ok z ∧ z.IsCoefficient := by
  by_cases float : x.isInteger = false ∨ y.isInteger = false
  · obtain ⟨c, d, floats, -⟩ := hx.exists_applyFloat hy float .mul
    exact ⟨_, floats, .real (c * d)⟩
  · cases hx with
    | real c => exact absurd (.inl rfl) float
    | sign k small =>
      cases hy with
      | real d => exact absurd (.inr rfl) float
      | sign l small' =>
        refine ⟨_, rfl, .sign (k * l) ?_⟩
        rw [Int.natAbs_mul]
        exact Nat.mul_le_mul small small'

/-- A coefficient can be divided by every float but zero. -/
theorem IsCoefficient.exists_div (hx : x.IsCoefficient) (hy : y.IsCoefficient)
    (float : y.isInteger = false) (nonzero : y.isNat 0 = false) :
    ∃ z, Quantity.apply .div x y = .ok z ∧ z.IsCoefficient := by
  cases hy with
  | sign l small => cases float
  | real d => ?_
  have other : (d == 0.0) = false := by
    by_contra zero
    rw [Bool.not_eq_false] at zero
    have same : ExactValue.ofFloat 0.0 = .ofFloat d :=
      (FloatLaws.beq_iff_exact (by decide) d).1 (PartialEquivBEq.symm zero)
    have value : ExactValue.ofFloat 0.0 = .finite (0 : Int) :=
      (FloatLaws.compareReal_eq_iff 0.0 0).1 (by decide +kernel)
    have equal : (Number.compareReal d 0 == some .eq) = true :=
      (FloatLaws.compareReal_eq_iff d 0).2 (same.symm.trans value)
    exact Bool.false_ne_true (nonzero.symm.trans equal)
  obtain ⟨c, d', floats, same⟩ := hx.exists_applyFloat (.real d) (.inr rfl) .div
  obtain rfl := same d rfl
  exact ⟨number (.real (c / d')), by rw [floats, Number.applyFloat, other]; rfl, .real _⟩

end Quantity

/-! ## Nodes -/

namespace Node

/-- Whether the node is real if it is a number. -/
def IsSettled (a : Node Quantity) : Prop :=
  a.isPlain = true → a.isReal Number Float = true

def isInteger : Node Quantity → Bool
  | constant c => c.isInteger
  | _ => false

/-- Whether operations can go on from the node: the number that it is, or the coefficient that it
has, goes together with floats. -/
def IsOperand : Node Quantity → Prop
  | constant c => c.IsCoefficient
  | undefined => False
  | monomial c _ => c.IsCoefficient
  | _ => True

/-- How an operation ends that completes: with a number if both nodes are numbers, and otherwise
with variables, all numbers being real. -/
inductive Combines (op : ArithmeticOp) (a b c : Node Quantity) : Prop where
  | folds {x y z : Quantity} (left : a = constant x) (right : b = constant y)
      (value : Quantity.apply op x y = .ok z) (result : c = constant z)
  | stays (left : a.IsSettled) (right : b.IsSettled) (mixed : (a.isPlain && b.isPlain) = false)
      (result : c.isPlain = false)

variable {op : ArithmeticOp} {a b c : Node Quantity}

theorem isPlain_eq_false (notUndefined : a = undefined → False)
    (notConstant : ∀ x, a = constant x → False) : a.isPlain = false := by
  unfold isPlain
  split
  · exact (notConstant _ rfl).elim
  · exact (notUndefined rfl).elim
  · rfl

theorem isInteger_of_not_plain (h : a.isPlain = false) : a.isInteger = false := by
  cases a with
  | constant x => cases h
  | _ => rfl

theorem isSettled_of_not_plain (h : a.isPlain = false) : a.IsSettled := fun plain =>
  absurd (h.symm.trans plain) Bool.false_ne_true

theorem IsOperand.settled (h : a.IsOperand) : a.IsSettled := by
  intro plain
  cases a with
  | constant x => exact Quantity.IsCoefficient.isReal h
  | undefined => exact h.elim
  | _ => cases plain

theorem Combines.isPlain (h : Combines op a b c) : c.isPlain = (a.isPlain && b.isPlain) := by
  cases h with
  | folds left right value result => rw [left, right, result]; rfl
  | stays left right mixed result => rw [mixed, result]

theorem Combines.settled (h : Combines op a b c) (settled : c.IsSettled) :
    a.IsSettled ∧ b.IsSettled := by
  cases h with
  | folds left right value result =>
    subst left right result
    obtain ⟨first, second⟩ := Quantity.isReal_of_apply value (settled rfl)
    exact ⟨fun _ => first, fun _ => second⟩
  | stays left right mixed result => exact ⟨left, right⟩

theorem Combines.isInteger (h : Combines op a b c) (integer : c.isInteger = true) :
    a.isInteger = true ∧ b.isInteger = true := by
  cases h with
  | folds left right value result =>
    subst left right result
    exact Quantity.isInteger_of_apply value integer
  | stays left right mixed result =>
    cases c with
    | constant z => cases result
    | _ => cases integer

theorem checkReal_eq_ok {x : Quantity} {u : Unit} (h : checkReal Number Float x = .ok u) :
    x.isReal = true := by
  unfold checkReal at h
  split at h
  next real => exact real
  next => cases h

theorem isPlain_addNumber (both : List (Node Quantity)) : (addNumber c a both).isPlain = false := by
  unfold addNumber
  split <;> rfl

theorem isPlain_join : (join a b).isPlain = false := by
  unfold join
  repeat' split
  all_goals rfl

theorem Combines.left {x : Quantity} (real : x.isReal = true) (mixed : b.isPlain = false)
    (result : c.isPlain = false) : Combines op (constant x) b c :=
  .stays (fun _ => real) (isSettled_of_not_plain mixed) mixed result

theorem Combines.right {x : Quantity} (mixed : a.isPlain = false) (real : x.isReal = true)
    (result : c.isPlain = false) : Combines op a (constant x) c :=
  .stays (isSettled_of_not_plain mixed) (fun _ => real) (by rw [mixed]; rfl) result

theorem Combines.both (left : a.isPlain = false) (right : b.isPlain = false)
    (result : c.isPlain = false) : Combines op a b c :=
  .stays (isSettled_of_not_plain left) (isSettled_of_not_plain right) (by rw [left]; rfl) result

theorem combines_add (h : add Number Float a b = .ok c) : Combines .add a b c := by
  unfold add at h
  split at h
  · cases h
  · cases h
  · obtain ⟨z, value, h⟩ := bind_eq_ok.1 h
    exact .folds rfl rfl value (pure_eq_ok.1 h).symm
  next x notUndefined notConstant =>
    obtain ⟨_, real, h⟩ := bind_eq_ok.1 h
    obtain rfl := pure_eq_ok.1 h
    have mixed : b.isPlain = false := isPlain_eq_false notUndefined notConstant
    refine .left (checkReal_eq_ok real) mixed ?_
    split
    · exact mixed
    · exact isPlain_addNumber _
  next x notUndefined notConstant =>
    obtain ⟨_, real, h⟩ := bind_eq_ok.1 h
    obtain rfl := pure_eq_ok.1 h
    have mixed : a.isPlain = false := isPlain_eq_false notUndefined notConstant
    refine .right mixed (checkReal_eq_ok real) ?_
    split
    · exact mixed
    · exact isPlain_addNumber _
  next leftUndefined leftConstant rightUndefined rightConstant _ =>
    obtain rfl := Except.ok.inj h
    exact .both (isPlain_eq_false leftUndefined leftConstant)
      (isPlain_eq_false rightUndefined rightConstant) isPlain_join

theorem scale_eq_ok {x : Quantity} {otherwise : Node Quantity}
    (h : scale Number Float x a otherwise = .ok c) :
    x.isReal = true ∧ (a.isPlain = false → otherwise.isPlain = false → c.isPlain = false) := by
  obtain ⟨_, real, h⟩ := bind_eq_ok.1 h
  refine ⟨checkReal_eq_ok real, fun mixed other => ?_⟩
  split at h
  · obtain rfl := pure_eq_ok.1 h
    exact mixed
  · split at h
    · obtain rfl := pure_eq_ok.1 h
      rfl
    · obtain ⟨_, -, h⟩ := bind_eq_ok.1 h
      obtain rfl := pure_eq_ok.1 h
      rfl
    · obtain rfl := pure_eq_ok.1 h
      exact other

theorem combines_mul (h : mul Number Float a b = .ok c) : Combines .mul a b c := by
  unfold mul at h
  split at h
  · cases h
  · cases h
  · obtain ⟨z, value, h⟩ := bind_eq_ok.1 h
    exact .folds rfl rfl value (pure_eq_ok.1 h).symm
  next x notUndefined notConstant =>
    have mixed : b.isPlain = false := isPlain_eq_false notUndefined notConstant
    obtain ⟨real, result⟩ := scale_eq_ok h
    exact .left real mixed (result mixed rfl)
  next x notUndefined notConstant =>
    have mixed : a.isPlain = false := isPlain_eq_false notUndefined notConstant
    obtain ⟨real, result⟩ := scale_eq_ok h
    exact .right mixed real (result mixed rfl)
  next leftUndefined leftConstant rightUndefined rightConstant _ =>
    obtain rfl := Except.ok.inj h
    exact .both (isPlain_eq_false leftUndefined leftConstant)
      (isPlain_eq_false rightUndefined rightConstant) rfl

theorem combines_div (h : div Number Float a b = .ok c) :
    Combines .div a b c ∧
      (a.isPlain = false → ∀ x, b = constant x → x.isNat 0 = false) := by
  unfold div at h
  split at h
  · cases h
  · cases h
  · obtain ⟨z, value, h⟩ := bind_eq_ok.1 h
    exact ⟨.folds rfl rfl value (pure_eq_ok.1 h).symm, fun mixed => by cases mixed⟩
  next x notUndefined notConstant =>
    have mixed : b.isPlain = false := isPlain_eq_false notUndefined notConstant
    obtain ⟨_, real, h⟩ := bind_eq_ok.1 h
    obtain rfl := pure_eq_ok.1 h
    exact ⟨.left (checkReal_eq_ok real) mixed rfl, fun mixed => by cases mixed⟩
  next x notUndefined notConstant =>
    have mixed : a.isPlain = false := isPlain_eq_false notUndefined notConstant
    obtain ⟨_, real, h⟩ := bind_eq_ok.1 h
    split at h
    · cases h
    next nonzero =>
      -- a node with variables keeps them when it is divided
      refine ⟨.right mixed (checkReal_eq_ok real) ?_, fun _ y same => ?_⟩
      · split at h
        · obtain rfl := pure_eq_ok.1 h
          exact mixed
        · split at h
          · obtain ⟨_, -, h⟩ := bind_eq_ok.1 h
            obtain rfl := pure_eq_ok.1 h
            rfl
          · obtain ⟨_, -, h⟩ := bind_eq_ok.1 h
            obtain rfl := pure_eq_ok.1 h
            rfl
          · obtain rfl := pure_eq_ok.1 h
            rfl
      · cases same
        exact Bool.not_eq_true _ ▸ nonzero
  next leftUndefined leftConstant rightUndefined rightConstant _ =>
    obtain rfl := Except.ok.inj h
    exact ⟨.both (isPlain_eq_false leftUndefined leftConstant)
      (isPlain_eq_false rightUndefined rightConstant) rfl,
      fun _ x same => (rightConstant x same).elim⟩

theorem combines_pow (h : pow Number Float a b = .ok c) : Combines .pow a b c := by
  unfold pow at h
  split at h
  · cases h
  · cases h
  · obtain ⟨z, value, h⟩ := bind_eq_ok.1 h
    exact .folds rfl rfl value (pure_eq_ok.1 h).symm
  next x notUndefined notConstant =>
    have mixed : b.isPlain = false := isPlain_eq_false notUndefined notConstant
    obtain ⟨_, real, h⟩ := bind_eq_ok.1 h
    obtain rfl := pure_eq_ok.1 h
    exact .left (checkReal_eq_ok real) mixed rfl
  next x notUndefined notConstant =>
    have mixed : a.isPlain = false := isPlain_eq_false notUndefined notConstant
    obtain ⟨_, real, h⟩ := bind_eq_ok.1 h
    obtain rfl := pure_eq_ok.1 h
    refine .right mixed (checkReal_eq_ok real) ?_
    split
    · exact mixed
    · rfl
  next leftUndefined leftConstant rightUndefined rightConstant _ =>
    obtain rfl := Except.ok.inj h
    exact .both (isPlain_eq_false leftUndefined leftConstant)
      (isPlain_eq_false rightUndefined rightConstant) rfl

theorem neg_eq_ok (h : neg Number Float a = .ok b) :
    b.isPlain = a.isPlain ∧ (b.IsSettled → a.IsSettled) ∧ b.isInteger = a.isInteger := by
  unfold neg at h
  split at h
  · cases h
  next x =>
    obtain rfl := Except.ok.inj h
    refine ⟨rfl, fun settled plain => ?_, ?_⟩
    · have real := settled plain
      cases x with
      | number n => rfl
      | complex z => cases real
    · cases x with
      | number n => cases n <;> rfl
      | complex z => rfl
  · obtain rfl := Except.ok.inj h
    exact ⟨rfl, fun settled => settled, rfl⟩
  · obtain rfl := Except.ok.inj h
    exact ⟨rfl, fun settled => settled, rfl⟩
  next notUndefined notConstant _ _ =>
    obtain rfl := Except.ok.inj h
    have mixed : a.isPlain = false := isPlain_eq_false notUndefined notConstant
    refine ⟨mixed.symm, fun _ => isSettled_of_not_plain mixed, ?_⟩
    cases a with
    | constant x => cases mixed
    | _ => rfl

theorem apply_eq_ok {f : Operator} (h : apply Number Float f a = .ok b) :
    b.isPlain = a.isPlain ∧ (b.isInteger = true → a.isInteger = true) := by
  unfold apply at h
  split at h
  · split at h
    · cases h
    · obtain rfl := Except.ok.inj h
      exact ⟨rfl, fun integer => by cases integer⟩
  · split at h
    · obtain ⟨z, value, h⟩ := bind_eq_ok.1 h
      obtain rfl := pure_eq_ok.1 h
      exact ⟨rfl, Quantity.isInteger_of_call value⟩
    · obtain rfl := Except.ok.inj h
      exact ⟨rfl, fun integer => by cases integer⟩
  next notUndefined notConstant =>
    obtain rfl := Except.ok.inj h
    exact ⟨(isPlain_eq_false notUndefined notConstant).symm, fun integer => by cases integer⟩

/-! ### Operations that complete -/

theorem checkReal_of_isCoefficient {x : Quantity} (h : x.IsCoefficient) :
    checkReal Number Float x = .ok () :=
  if_pos h.isReal

theorem isOperand_addNumber (both : List (Node Quantity)) : (addNumber c a both).IsOperand := by
  unfold addNumber
  split <;> trivial

theorem isOperand_join : (join a b).IsOperand := by
  unfold join
  repeat' split
  all_goals trivial

theorem completes_add (ha : a.IsOperand) (hb : b.IsOperand)
    (float : a.isInteger = false ∨ b.isInteger = false) :
    ∃ c, add Number Float a b = .ok c ∧ c.IsOperand := by
  unfold add
  split
  · exact ha.elim
  · exact hb.elim
  · obtain ⟨z, value, coefficient⟩ := Quantity.IsCoefficient.exists_add ha hb float
    exact ⟨constant z, bind_eq_ok.2 ⟨z, value, rfl⟩, coefficient⟩
  next x notUndefined notConstant =>
    rw [checkReal_of_isCoefficient ha]
    refine ⟨_, rfl, ?_⟩
    split
    · exact hb
    · exact isOperand_addNumber _
  next x notUndefined notConstant =>
    rw [checkReal_of_isCoefficient hb]
    refine ⟨_, rfl, ?_⟩
    split
    · exact ha
    · exact isOperand_addNumber _
  · exact ⟨_, rfl, isOperand_join⟩

theorem completes_scale {x : Quantity} {otherwise : Node Quantity} (hx : x.IsCoefficient)
    (ha : a.IsOperand) (other : otherwise.IsOperand) :
    ∃ c, scale Number Float x a otherwise = .ok c ∧ c.IsOperand := by
  unfold scale
  rw [checkReal_of_isCoefficient hx]
  simp only [bind, Except.bind]
  split
  · exact ⟨a, rfl, ha⟩
  · split
    · exact ⟨_, rfl, hx⟩
    next d v =>
      obtain ⟨z, value, coefficient⟩ := hx.exists_mul (y := d) ha
      exact ⟨monomial z v, bind_eq_ok.2 ⟨z, value, rfl⟩, coefficient⟩
    · exact ⟨_, rfl, other⟩

theorem completes_mul (ha : a.IsOperand) (hb : b.IsOperand) :
    ∃ c, mul Number Float a b = .ok c ∧ c.IsOperand := by
  unfold mul
  split
  · exact ha.elim
  · exact hb.elim
  · obtain ⟨z, value, coefficient⟩ := Quantity.IsCoefficient.exists_mul ha hb
    exact ⟨constant z, bind_eq_ok.2 ⟨z, value, rfl⟩, coefficient⟩
  · exact completes_scale ha hb trivial
  · exact completes_scale hb ha trivial
  · exact ⟨_, rfl, trivial⟩

theorem completes_neg (ha : a.IsOperand) : ∃ c, neg Number Float a = .ok c ∧ c.IsOperand := by
  unfold neg
  split
  · exact ha.elim
  · exact ⟨_, rfl, Quantity.IsCoefficient.neg ha⟩
  · exact ⟨_, rfl, .sign (-1) (by decide)⟩
  · exact ⟨_, rfl, Quantity.IsCoefficient.neg ha⟩
  · exact ⟨_, rfl, trivial⟩

theorem completes_div (ha : a.IsOperand) (hb : b.IsOperand) (float : b.isInteger = false)
    (nonzero : ∀ x, b = constant x → x.isNat 0 = false) :
    ∃ c, div Number Float a b = .ok c ∧ c.IsOperand := by
  unfold div
  split
  · exact ha.elim
  · exact hb.elim
  · obtain ⟨z, value, coefficient⟩ :=
      Quantity.IsCoefficient.exists_div ha hb float (nonzero _ rfl)
    exact ⟨constant z, bind_eq_ok.2 ⟨z, value, rfl⟩, coefficient⟩
  · rw [checkReal_of_isCoefficient ha]
    exact ⟨_, rfl, trivial⟩
  next d _ _ =>
    have other : CheckedArithmetic.isNat Number Float d 0 = false := nonzero d rfl
    rw [checkReal_of_isCoefficient hb]
    simp only [bind, Except.bind, other, Bool.false_eq_true, if_false]
    split
    · exact ⟨_, rfl, ha⟩
    · split
      next v _ _ =>
        obtain ⟨z, value, coefficient⟩ := Quantity.IsCoefficient.exists_div
          (.sign 1 (by decide)) hb float other
        exact ⟨monomial z v, bind_eq_ok.2 ⟨z, value, rfl⟩, coefficient⟩
      next c v _ _ =>
        obtain ⟨z, value, coefficient⟩ := Quantity.IsCoefficient.exists_div (x := c)
          ha hb float other
        exact ⟨monomial z v, bind_eq_ok.2 ⟨z, value, rfl⟩, coefficient⟩
      · exact ⟨_, rfl, trivial⟩
  · exact ⟨_, rfl, trivial⟩

theorem completes_pow (ha : a.IsOperand) (hb : b.IsOperand)
    (mixed : (a.isPlain && b.isPlain) = false) :
    ∃ c, pow Number Float a b = .ok c ∧ c.IsOperand := by
  unfold pow
  split
  · exact ha.elim
  · exact hb.elim
  · cases mixed
  · rw [checkReal_of_isCoefficient ha]
    exact ⟨_, rfl, trivial⟩
  · rw [checkReal_of_isCoefficient hb]
    refine ⟨_, rfl, ?_⟩
    split
    · exact ha
    · trivial
  · exact ⟨_, rfl, trivial⟩

theorem completes_apply (f : Operator) (mixed : a.isPlain = false) :
    ∃ c, apply Number Float f a = .ok c ∧ c.IsOperand := by
  unfold apply
  split
  · cases mixed
  · cases mixed
  · exact ⟨_, rfl, trivial⟩

/-! ### Operators -/

/-- What is known of the result of an operator on some nodes. -/
structure Outcome (args : List (Node Quantity)) (c : Node Quantity) : Prop where
  isPlain : c.isPlain = args.all isPlain
  settled : c.isPlain = false → ∀ a ∈ args, a.IsSettled
  isInteger : c.isInteger = true → ∀ a ∈ args, a.isInteger = true

theorem Combines.outcome (h : Combines op a b c) : Outcome [a, b] c where
  isPlain := by simp [h.isPlain]
  settled mixed := by simpa using h.settled (isSettled_of_not_plain mixed)
  isInteger integer := by simpa using h.isInteger integer

theorem outcome_neg (h : neg Number Float a = .ok b) : Outcome [a] b := by
  obtain ⟨isPlain, settled, isInteger⟩ := neg_eq_ok h
  exact ⟨by simp [isPlain], fun mixed => by simpa using settled (isSettled_of_not_plain mixed),
    fun integer => by simpa using isInteger ▸ integer⟩

theorem outcome_sub (h : sub Number Float a b = .ok c) : Outcome [a, b] c := by
  obtain ⟨b', negated, added⟩ := bind_eq_ok.1 h
  obtain ⟨isPlain, settled, isInteger⟩ := neg_eq_ok negated
  have sum := combines_add added
  refine ⟨by simp [sum.isPlain, isPlain], fun mixed => ?_, fun integer => ?_⟩
  · have both := sum.settled (isSettled_of_not_plain mixed)
    simpa using ⟨both.1, settled both.2⟩
  · have both := sum.isInteger integer
    simpa using ⟨both.1, isInteger ▸ both.2⟩

theorem outcome_apply {f : Operator} (h : apply Number Float f a = .ok b) : Outcome [a] b := by
  obtain ⟨isPlain, isInteger⟩ := apply_eq_ok h
  refine ⟨by simp [isPlain], fun mixed => ?_, fun integer => by simpa using isInteger integer⟩
  simpa using isSettled_of_not_plain (isPlain ▸ mixed)

theorem outcome_foldlM {f : Node Quantity → Node Quantity → Except ArithmeticError (Node Quantity)}
    (combines : ∀ a b c, f a b = .ok c → Combines op a b c) {args : List (Node Quantity)}
    {start : Quantity} (h : args.foldlM f (constant start) = .ok c) : Outcome args c := by
  have all (a : Node Quantity) (folded : args.foldlM f a = .ok c) :
      c.isPlain = (a.isPlain && args.all Node.isPlain) ∧
      (c.IsSettled → a.IsSettled ∧ ∀ b ∈ args, b.IsSettled) ∧
      (c.isInteger = true → a.isInteger = true ∧ ∀ b ∈ args, b.isInteger = true) := by
    -- over any start, since the members are added to what is already there
    clear h
    induction args generalizing a with
    | nil =>
      obtain rfl := pure_eq_ok.1 folded
      simp
    | cons b args ih =>
      rw [List.foldlM_cons] at folded
      obtain ⟨d, first, rest⟩ := bind_eq_ok.1 folded
      have one := combines a b d first
      obtain ⟨isPlain, settled, isInteger⟩ := ih d rest
      refine ⟨by rw [isPlain, one.isPlain, List.all_cons, Bool.and_assoc], fun known => ?_,
        fun integer => ?_⟩
      · obtain ⟨known, others⟩ := settled known
        obtain ⟨left, right⟩ := one.settled known
        exact ⟨left, List.forall_mem_cons.2 ⟨right, others⟩⟩
      · obtain ⟨integer, others⟩ := isInteger integer
        obtain ⟨left, right⟩ := one.isInteger integer
        exact ⟨left, List.forall_mem_cons.2 ⟨right, others⟩⟩
  obtain ⟨isPlain, settled, isInteger⟩ := all _ h
  exact ⟨isPlain, fun mixed => (settled (isSettled_of_not_plain mixed)).2,
    fun integer => (isInteger integer).2⟩

/-- A sum or a product of operands completes unless its arguments may be integers. -/
theorem completes_foldlM {f : Node Quantity → Node Quantity → Except ArithmeticError (Node Quantity)}
    (step : ∀ a b, a.IsOperand → b.IsOperand → b.isInteger = false →
      ∃ c, f a b = .ok c ∧ c.IsOperand) {args : List (Node Quantity)}
    (operands : ∀ b ∈ args, b.IsOperand) (floats : ∀ b ∈ args, b.isInteger = false)
    (start : a.IsOperand) : ∃ c, args.foldlM f a = .ok c ∧ c.IsOperand := by
  induction args generalizing a with
  | nil => exact ⟨a, rfl, start⟩
  | cons b args ih =>
    obtain ⟨first, operands⟩ := List.forall_mem_cons.1 operands
    obtain ⟨float, floats⟩ := List.forall_mem_cons.1 floats
    obtain ⟨d, combined, operand⟩ := step a b start first float
    obtain ⟨c, rest, known⟩ := ih operands floats operand
    refine ⟨c, ?_, known⟩
    rw [List.foldlM_cons]
    exact bind_eq_ok.2 ⟨d, combined, rest⟩

end Node

/-! ## Operators -/

namespace Algebraic

variable {op : Operator} {args : List (Node Quantity)} {c : Node Quantity}

/-- An operator that completes had a fitting number of arguments. Its result is a number only if all
of them are; otherwise all numbers among them are real, and none that divides is zero. -/
theorem operatorNode_eq_ok (h : operatorNode (N := Number) (K := Float) op args = .ok c) :
    op.takes args.length = true ∧ Node.Outcome args c ∧
      (op = .quotient → c.isPlain = false → ∀ x, args[1]? = some (.constant x) →
        x.isNat 0 = false) := by
  have harmless (other : op ≠ .quotient) : op = .quotient → c.isPlain = false →
      ∀ x, args[1]? = some (.constant x) → x.isNat 0 = false := fun same => absurd same other
  unfold operatorNode at h
  split at h
  · exact ⟨rfl, Node.outcome_foldlM (fun _ _ _ => Node.combines_add) (mapError_eq_ok.1 h),
      harmless (by decide)⟩
  · exact ⟨rfl, Node.outcome_foldlM (fun _ _ _ => Node.combines_mul) (mapError_eq_ok.1 h),
      harmless (by decide)⟩
  · exact ⟨rfl, Node.outcome_neg (mapError_eq_ok.1 h), harmless (by decide)⟩
  · exact ⟨rfl, Node.outcome_sub (mapError_eq_ok.1 h), harmless (by decide)⟩
  next a b =>
    obtain ⟨combines, nonzero⟩ := Node.combines_div (mapError_eq_ok.1 h)
    refine ⟨rfl, combines.outcome, fun _ mixed x same => ?_⟩
    obtain rfl := Option.some.inj same
    refine nonzero ?_ x rfl
    rw [combines.isPlain] at mixed
    exact (Bool.and_eq_false_iff.1 mixed).resolve_right fun plain => by cases plain
  · exact ⟨rfl, (Node.combines_pow (mapError_eq_ok.1 h)).outcome, harmless (by decide)⟩
  · cases h
  · cases h
  · cases h
  next notSum notProduct notMinus notQuotient notPower =>
    have takes : op.takes 1 = true := by
      cases op <;> first | rfl | contradiction
    exact ⟨takes, Node.outcome_apply (mapError_eq_ok.1 h), harmless notQuotient⟩
  · cases h

/-- An operator of operands completes if their number fits, one of them has variables, none is an
integer, and none that divides is zero. -/
theorem exists_operatorNode (takes : op.takes args.length = true)
    (operands : ∀ a ∈ args, a.IsOperand) (floats : ∀ a ∈ args, a.isInteger = false)
    (mixed : args.all Node.isPlain = false)
    (nonzero : op = .quotient → ∀ x, args[1]? = some (.constant x) → x.isNat 0 = false) :
    ∃ c, operatorNode (N := Number) (K := Float) op args = .ok c ∧ c.IsOperand := by
  have lift {x : Except ArithmeticError (Node Quantity)} (h : ∃ c, x = .ok c ∧ c.IsOperand) :
      ∃ c, x.mapError ofArithmetic = .ok c ∧ c.IsOperand := by
    obtain ⟨c, done, operand⟩ := h
    exact ⟨c, mapError_eq_ok.2 done, operand⟩
  unfold operatorNode
  split
  · exact lift (Node.completes_foldlM (fun a b ha hb float => Node.completes_add ha hb (.inr float))
      operands floats (.sign 0 (by decide)))
  · exact lift (Node.completes_foldlM (fun a b ha hb _ => Node.completes_mul ha hb)
      operands floats (.sign 1 (by decide)))
  next a => exact lift (Node.completes_neg (operands a (by simp)))
  next a b =>
    obtain ⟨b', negated, operand⟩ := Node.completes_neg (operands b (by simp))
    have float : b'.isInteger = false := (Node.neg_eq_ok negated).2.2.trans (floats b (by simp))
    obtain ⟨c, added, known⟩ := Node.completes_add (operands a (by simp)) operand (.inr float)
    exact lift ⟨c, bind_eq_ok.2 ⟨b', negated, added⟩, known⟩
  next a b =>
    exact lift (Node.completes_div (operands a (by simp)) (operands b (by simp))
      (floats b (by simp)) fun x same => nonzero rfl x (congrArg some same))
  next a b =>
    refine lift (Node.completes_pow (operands a (by simp)) (operands b (by simp)) ?_)
    simpa using mixed
  -- the other numbers of arguments do not fit
  next notOne notTwo =>
    rcases Bool.or_eq_true_iff.1 takes with one | two
    · obtain ⟨a, rfl⟩ := List.length_eq_one_iff.1 (beq_iff_eq.1 one)
      exact (notOne a rfl).elim
    · obtain ⟨a, b, rfl⟩ := List.length_eq_two.1 (beq_iff_eq.1 two)
      exact (notTwo a b rfl).elim
  next notTwo =>
    obtain ⟨a, b, rfl⟩ := List.length_eq_two.1 (Option.some.inj (beq_iff_eq.1 takes)).symm
    exact (notTwo a b rfl).elim
  next notTwo =>
    obtain ⟨a, b, rfl⟩ := List.length_eq_two.1 (Option.some.inj (beq_iff_eq.1 takes)).symm
    exact (notTwo a b rfl).elim
  -- what is left are the functions of one argument
  next a notSum notProduct notMinus notQuotient notPower =>
    exact lift (Node.completes_apply op (by simpa using mixed))
  next notSum notProduct notMinus notQuotient notPower notOne _ _ _ _ =>
    have one : args.length = 1 := by
      cases op <;> first
        | contradiction
        | exact (Option.some.inj (beq_iff_eq.1 takes)).symm
    obtain ⟨a, rfl⟩ := List.length_eq_one_iff.1 one
    exact (notOne a rfl).elim

end Algebraic

end MathProg
